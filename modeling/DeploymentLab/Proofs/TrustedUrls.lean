import DeploymentLab.Proofs.RequestPaths
import DeploymentLab.Proofs.SourceUrls

/-!
# Requests under the configured endpoint

`_trusted_url` compares the authority of the joined URL with that of the base URL and leaves the
path alone. A request stays under the base path and its repository exactly where no segment of
either is resolved or dropped when they are joined.
-/

namespace DeploymentLab

open Reading

section Urls

variable [Runtime]

/-- What stands around the authority of a URL. -/
structure Authority (scheme netloc tail : List Char) : Prop where
  colon : ':' ∉ scheme
  letters : (scheme.head?.any Char.isAlpha && scheme.all schemeChar) = true
  netloc : ∀ c ∈ netloc, netlocDelimiter c = false
  tail : ∀ c ∈ tail.head?, netlocDelimiter c = true

lemma urlsplit_of_clean {url : String} {scheme netloc tail : List Char}
    (h : Authority scheme netloc tail)
    (hurl : cleanUrl url = scheme ++ ':' :: '/' :: '/' :: (netloc ++ tail)) :
    urlsplit url = splitTail (Runtime.lower (String.ofList scheme)) netloc tail := by
  have hscheme : splitScheme (scheme ++ ':' :: '/' :: '/' :: (netloc ++ tail)) =
      (Runtime.lower (String.ofList scheme), '/' :: '/' :: (netloc ++ tail)) := by
    unfold splitScheme
    rw [partitionAt_append h.colon]
    dsimp only
    rw [Bool.true_and, h.letters, if_pos rfl]
  have htake : ∀ c ∈ netloc, (!netlocDelimiter c) = true := by
    intro c hc
    rw [h.netloc c hc]
    rfl
  have hstop : tail.takeWhile (fun c => !netlocDelimiter c) = [] ∧
      tail.dropWhile (fun c => !netlocDelimiter c) = tail := by
    cases tail with
    | nil => exact ⟨rfl, rfl⟩
    | cons c tail => simp [h.tail c rfl]
  rw [urlsplit_eq, hurl, hscheme, splitNetloc, List.takeWhile_append_of_pos htake,
    List.dropWhile_append_of_pos htake, hstop.1, hstop.2, List.append_nil]

/-- Only the authority decides whether a URL can be split. -/
lemma splitTail_eq_ok {scheme : String} {netloc tail : List Char} {parsed : SplitResult}
    (h : splitTail scheme netloc tail = .ok parsed) (tail' : List Char) :
    splitTail scheme netloc tail' = .ok {
      scheme
      netloc := String.ofList netloc
      path := String.ofList (partitionAt '?' (partitionAt '#' tail').1).1
      query := String.ofList (partitionAt '?' (partitionAt '#' tail').1).2.2
      fragment := String.ofList (partitionAt '#' tail').2.2 } := by
  unfold splitTail at h ⊢
  split at h
  · cases h
  split at h
  · cases h
  split at h
  · cases h
  rename_i hbrackets hallowed hnormal
  rw [if_neg hbrackets, if_neg hallowed, if_neg hnormal]

lemma splitScheme_ne_empty {url : List Char} (h : (splitScheme url).1 ≠ "") :
    ∃ scheme rest, ':' ∉ scheme ∧ (scheme.head?.any Char.isAlpha && scheme.all schemeChar) = true ∧
      url = scheme ++ ':' :: rest ∧
      splitScheme url = (Runtime.lower (String.ofList scheme), rest) := by
  have hparts := partitionAt_parts ':' url
  have hcolon := @notMem_partitionAt ':' url
  unfold splitScheme at h ⊢
  generalize partitionAt ':' url = parts at h hparts hcolon ⊢
  obtain ⟨scheme, found, rest⟩ := parts
  dsimp only at h hparts hcolon ⊢
  split at h
  · rename_i hfound
    rw [Bool.and_assoc, Bool.and_eq_true] at hfound
    refine ⟨scheme, rest, hcolon, hfound.2, ?_, ?_⟩
    · rw [← hparts, if_pos hfound.1, List.append_assoc]
      rfl
    · rw [if_pos (by rw [Bool.and_assoc, Bool.and_eq_true]; exact hfound)]
  · exact absurd rfl h

/-- A URL with a scheme and an authority is made of them. -/
lemma clean_of_urlsplit {url : String} {parsed : SplitResult} (h : urlsplit url = .ok parsed)
    (hscheme : parsed.scheme ≠ "") (hnetloc : parsed.netloc ≠ "") :
    ∃ scheme tail, Authority scheme parsed.netloc.toList tail ∧
      cleanUrl url = scheme ++ ':' :: '/' :: '/' :: (parsed.netloc.toList ++ tail) ∧
      Runtime.lower (String.ofList scheme) = parsed.scheme ∧
      splitTail parsed.scheme parsed.netloc.toList tail = .ok parsed := by
  have hparts : parsed.scheme = (splitScheme (cleanUrl url)).1 ∧
      parsed.netloc = String.ofList (splitNetloc (splitScheme (cleanUrl url)).2).1 := by
    rw [urlsplit_eq] at h
    have hok := splitTail_eq_ok h (splitNetloc (splitScheme (cleanUrl url)).2).2
    rw [h] at hok
    obtain rfl := Except.ok.inj hok
    exact ⟨rfl, rfl⟩
  rw [urlsplit_eq] at h
  obtain ⟨scheme, rest, hcolon, hletters, hclean, hsplit⟩ :=
    splitScheme_ne_empty (hparts.1 ▸ hscheme)
  rw [hsplit] at h hparts
  have hends := splitNetloc_ends rest
  have hchars := splitNetloc_chars rest
  have hlist : parsed.netloc.toList = (splitNetloc rest).1 := by
    rw [hparts.2, String.toList_ofList]
  have hne : (splitNetloc rest).1 ≠ [] := by
    intro hnil
    rw [← hlist] at hnil
    exact hnetloc (String.toList_inj.1 hnil)
  have hrest : rest = '/' :: '/' :: ((splitNetloc rest).1 ++ (splitNetloc rest).2) := by
    fun_cases splitNetloc rest with
    | case1 rest => rw [List.takeWhile_append_dropWhile]
    | case2 rest hother =>
      rw [splitNetloc] at hne
      · exact absurd rfl hne
      · exact hother
  refine ⟨scheme, (splitNetloc rest).2, ⟨hcolon, hletters, ?_, ?_⟩, ?_, hparts.1.symm, ?_⟩
  · rw [hlist]
    exact fun c hc => (hchars.1 c hc).2
  · exact hends.resolve_left hne
  · rw [hclean, hlist, ← hrest]
  · rw [hlist, hparts.1]
    exact h

omit [Runtime] in
lemma exists_slashes (path : List Char) :
    ∃ k, path = path.rdropWhile (· == '/') ++ List.replicate k '/' := by
  refine ⟨(path.rtakeWhile (· == '/')).length, ?_⟩
  have hslashes : path.rtakeWhile (· == '/') =
      List.replicate (path.rtakeWhile (· == '/')).length '/' := by
    refine List.eq_replicate_of_mem fun c hc => ?_
    simpa using List.mem_rtakeWhile_imp hc
  rw [← hslashes, List.rdropWhile_append_rtakeWhile]

omit [Runtime] in
lemma rdropWhile_slashes (path : List Char) (k : ℕ) :
    (path ++ List.replicate k '/').rdropWhile (· == '/') = path.rdropWhile (· == '/') := by
  induction k with
  | zero => simp
  | succ k ih =>
    rw [List.replicate_succ', ← List.append_assoc, List.rdropWhile_concat_pos _ _ _ rfl, ih]

omit [Runtime] in
/-- Slashes at the end of a URL stay when it is cleaned, and one of them is put there. -/
lemma cleanUrl_normalizedBase {baseUrl : String} {c : Char} {front : List Char}
    (h : cleanUrl baseUrl = c :: front) (hc : c ≠ '/') :
    ∃ text k, cleanUrl baseUrl = text ++ List.replicate k '/' ∧
      cleanUrl (normalizedBase baseUrl) = text ++ ['/'] := by
  obtain ⟨k, hk⟩ := exists_slashes baseUrl.toList
  have hnormalized : (normalizedBase baseUrl).toList =
      baseUrl.toList.rdropWhile (· == '/') ++ ['/'] := by
    rw [normalizedBase, String.toList_append, String.toList_ofList]
    rfl
  generalize baseUrl.toList.rdropWhile (· == '/') = stripped at hk hnormalized
  have hslashes : ∀ n, (List.replicate n '/').filter (fun c => !unsafeUrlByte c) =
      List.replicate n '/' := by
    intro n
    rw [List.filter_replicate]
    rfl
  unfold cleanUrl at h ⊢
  rw [hk, List.dropWhile_append] at h ⊢
  rw [hnormalized, List.dropWhile_append]
  split at h
  · rename_i hempty
    have hstay : (List.replicate k '/').dropWhile controlOrSpace = List.replicate k '/' := by
      cases k with
      | zero => rfl
      | succ k => rfl
    rw [hstay, hslashes] at h
    exact absurd (List.eq_of_mem_replicate (h ▸ List.mem_cons_self)) hc
  · rename_i hempty
    rw [if_neg hempty, if_neg hempty]
    refine ⟨(stripped.dropWhile controlOrSpace).filter fun c => !unsafeUrlByte c, k, ?_, ?_⟩
    · rw [List.filter_append, hslashes]
    · rw [List.filter_append]
      rfl

/-- The path under which requests are made. -/
def basePath (base : SplitResult) : List Char := base.path.toList.rdropWhile (· == '/')

omit [Runtime] in
/-- The URL ends in an empty query or fragment. -/
def OpenEnded (baseUrl : String) : Prop :=
  (cleanUrl baseUrl).getLast? = some '?' ∨ (cleanUrl baseUrl).getLast? = some '#'

/-- A slash at the end of the URL is a slash at the end of its path. -/
def Closed (baseUrl : String) (base : SplitResult) : Prop :=
  ¬OpenEnded baseUrl ∨ base.path = "" ∨ base.path.toList.getLast? = some '/'

omit [Runtime] in
lemma append_slashes {front tail text : List Char} {m : ℕ}
    (h : front ++ tail = text ++ List.replicate m '/') (hlast : '/' ∉ front.getLast?) :
    ∃ tail', tail = tail' ++ List.replicate m '/' ∧ text = front ++ tail' := by
  rcases List.append_eq_append_iff.1 h with ⟨tail', htext, htail⟩ | ⟨slashes, hfront, hslashes⟩
  · exact ⟨tail', htail, htext⟩
  · cases hlist : slashes.getLast? with
    | none =>
      rw [List.getLast?_eq_none_iff] at hlist
      rw [hlist, List.append_nil] at hfront
      rw [hlist, List.nil_append] at hslashes
      exact ⟨[], by rw [List.nil_append, hslashes], by rw [List.append_nil, hfront]⟩
    | some c =>
      have hc : c ∈ List.replicate m '/' := by
        rw [hslashes]
        exact List.mem_append_left _ (List.mem_of_getLast? hlist)
      refine absurd ?_ hlast
      rw [hfront, List.getLast?_append, hlist, List.eq_of_mem_replicate hc]
      rfl

omit [Runtime] in
/-- The path in front of an empty query and an empty fragment. A slash more behind them is not part
of it. -/
lemma path_of_tail {tail : List Char} {m : ℕ}
    (hfragment : (partitionAt '#' (tail ++ List.replicate m '/')).2.2 = [])
    (hquery : (partitionAt '?' (partitionAt '#' (tail ++ List.replicate m '/')).1).2.2 = []) :
    ('?' ∉ tail ∧ '#' ∉ tail) ∨
      m = 0 ∧ (tail.getLast? = some '?' ∨ tail.getLast? = some '#') ∧
        (partitionAt '?' (partitionAt '#' (tail ++ ['/'])).1).1 =
          (partitionAt '?' (partitionAt '#' tail).1).1 := by
  have houter := partitionAt_parts '#' (tail ++ List.replicate m '/')
  have hinner := partitionAt_parts '?' (partitionAt '#' (tail ++ List.replicate m '/')).1
  have hhash := @notMem_partitionAt '#' (tail ++ List.replicate m '/')
  have hmark := @notMem_partitionAt '?' (partitionAt '#' (tail ++ List.replicate m '/')).1
  rw [hfragment, List.append_nil] at houter
  rw [hquery, List.append_nil] at hinner
  have hnone : ∀ c, c ≠ '/' → (tail ++ List.replicate m '/').getLast? = some c →
      m = 0 ∧ tail ++ List.replicate m '/' = tail := by
    intro c hc hlast
    cases m with
    | zero => exact ⟨rfl, List.append_nil _⟩
    | succ m =>
      rw [List.replicate_succ', ← List.append_assoc, List.getLast?_concat] at hlast
      exact absurd (Option.some.inj hlast).symm hc
  generalize (partitionAt '#' (tail ++ List.replicate m '/')).1 = before at *
  cases hfound : (partitionAt '#' (tail ++ List.replicate m '/')).2.1 with
  | true =>
    rw [hfound, if_pos rfl] at houter
    obtain ⟨hm, htail⟩ := hnone '#' (by decide) (by rw [← houter, List.getLast?_concat])
    rw [htail] at houter
    refine .inr ⟨hm, .inr (by rw [← houter, List.getLast?_concat]), ?_⟩
    rw [← houter, List.append_assoc, List.singleton_append, partitionAt_append hhash,
      partitionAt_append hhash]
  | false =>
    rw [hfound, if_neg Bool.false_ne_true, List.append_nil] at houter
    cases hasked : (partitionAt '?' before).2.1 with
    | true =>
      rw [hasked, if_pos rfl] at hinner
      have hends : (tail ++ List.replicate m '/').getLast? = some '?' := by
        rw [← houter, ← hinner, List.getLast?_concat]
      obtain ⟨hm, htail⟩ := hnone '?' (by decide) hends
      rw [htail] at houter
      have hslash : '#' ∉ tail ++ ['/'] := by
        rw [← houter, List.mem_append, not_or]
        exact ⟨hhash, by decide⟩
      refine .inr ⟨hm, .inl (by rw [← htail, hends]), ?_⟩
      rw [partitionAt_of_notMem hslash, ← houter, partitionAt_of_notMem hhash, ← hinner,
        List.append_assoc, List.singleton_append, partitionAt_append hmark,
        partitionAt_append hmark]
    | false =>
      rw [hasked, if_neg Bool.false_ne_true, List.append_nil] at hinner
      rw [hinner] at hmark
      rw [houter] at hhash hmark
      exact .inl ⟨fun hmem => hmark (List.mem_append_left _ hmem),
        fun hmem => hhash (List.mem_append_left _ hmem)⟩

/-- The slashes at the end of a URL stand behind its authority, and one of them is put there. -/
lemma clean_normalizedBase {baseUrl : String} {base : SplitResult}
    (h : urlsplit baseUrl = .ok base) (hscheme : base.scheme ≠ "") (hnetloc : base.netloc ≠ "") :
    ∃ scheme tail m, Authority scheme base.netloc.toList (tail ++ List.replicate m '/') ∧
      cleanUrl baseUrl = scheme ++ ':' :: '/' :: '/' ::
        (base.netloc.toList ++ (tail ++ List.replicate m '/')) ∧
      splitTail base.scheme base.netloc.toList (tail ++ List.replicate m '/') = .ok base ∧
      urlsplit (normalizedBase baseUrl) =
        splitTail base.scheme base.netloc.toList (tail ++ ['/']) := by
  obtain ⟨scheme, tail, hauthority, hclean, hlower, htail⟩ := clean_of_urlsplit h hscheme hnetloc
  obtain ⟨c, letters, hletters, hc⟩ : ∃ c letters, scheme = c :: letters ∧ c ≠ '/' := by
    have halpha := (Bool.and_eq_true_iff.1 hauthority.letters).1
    cases scheme with
    | nil => cases halpha
    | cons c letters =>
      refine ⟨c, letters, rfl, ?_⟩
      rintro rfl
      have hslash : Char.isAlpha '/' = true := halpha
      exact absurd hslash (by decide)
  obtain ⟨text, m, htext, hnormalized⟩ :=
    cleanUrl_normalizedBase (by rw [hclean, hletters]; rfl) hc
  -- the authority ends in no slash, so that the slashes at the end stand behind it
  obtain ⟨tail', rfl, htext'⟩ : ∃ tail', tail = tail' ++ List.replicate m '/' ∧
      text = (scheme ++ ':' :: '/' :: '/' :: base.netloc.toList) ++ tail' := by
    refine append_slashes ?_ ?_
    · rw [← htext, hclean]
      simp
    · intro hslash
      have hne : base.netloc.toList ≠ [] := fun hnil => hnetloc (String.toList_inj.1 hnil)
      have hlast : base.netloc.toList.getLast? = some '/' := by
        rw [← Option.mem_def.1 hslash, List.getLast?_append_of_ne_nil _ (List.cons_ne_nil _ _),
          List.getLast?_cons_of_ne_nil (List.cons_ne_nil _ _),
          List.getLast?_cons_of_ne_nil (List.cons_ne_nil _ _), List.getLast?_cons_of_ne_nil hne]
      exact absurd (hauthority.netloc '/' (List.mem_of_getLast? hlast)) (by decide)
  have hauthority' : Authority scheme base.netloc.toList (tail' ++ ['/']) := by
    refine ⟨hauthority.colon, hauthority.letters, hauthority.netloc, fun d hd => ?_⟩
    cases tail' with
    | nil =>
      cases hd
      decide
    | cons e tail' => exact hauthority.tail d hd
  refine ⟨scheme, tail', m, hauthority, hclean, htail, ?_⟩
  rw [urlsplit_of_clean hauthority' (by rw [hnormalized, htext']; simp), hlower]

/-- The path of the base URL with its slash, unless an empty query or fragment takes the slash. -/
lemma urlsplit_normalizedBase {baseUrl : String} {base : SplitResult}
    (h : urlsplit baseUrl = .ok base) (hscheme : base.scheme ≠ "") (hnetloc : base.netloc ≠ "")
    (hquery : base.query = "") (hfragment : base.fragment = "") :
    ∃ k query fragment, urlsplit (normalizedBase baseUrl) =
        .ok ⟨base.scheme, base.netloc,
          String.ofList (basePath base ++ List.replicate k '/'), query, fragment⟩ ∧
      (k ≠ 0 ∨ basePath base = [] ↔ Closed baseUrl base) := by
  obtain ⟨scheme, tail', m, hauthority, hclean, htail, hsplit⟩ :=
    clean_normalizedBase h hscheme hnetloc
  rw [splitTail_eq_ok htail, String.ofList_toList] at hsplit
  have hbase := splitTail_eq_ok htail (tail' ++ List.replicate m '/')
  rw [htail, Except.ok.injEq] at hbase
  have hparts : base.path = _ ∧ base.query = _ ∧ base.fragment = _ :=
    ⟨congrArg SplitResult.path hbase, congrArg SplitResult.query hbase,
      congrArg SplitResult.fragment hbase⟩
  dsimp only at hparts
  rw [hquery, hfragment] at hparts
  have hempty : ∀ {cs : List Char}, "" = String.ofList cs → cs = [] := by
    intro cs hcs
    rw [← String.toList_ofList (l := cs), ← hcs]
    rfl
  have hpath : base.path.toList = (partitionAt '?'
      (partitionAt '#' (tail' ++ List.replicate m '/')).1).1 := by
    rw [hparts.1, String.toList_ofList]
  have hnetlocList : base.netloc.toList ≠ [] := fun hnil => hnetloc (String.toList_inj.1 hnil)
  have hlast : (cleanUrl baseUrl).getLast? =
      (base.netloc.toList ++ (tail' ++ List.replicate m '/')).getLast? := by
    rw [hclean, List.getLast?_append_of_ne_nil _ (List.cons_ne_nil _ _),
      List.getLast?_cons_of_ne_nil (List.cons_ne_nil _ _),
      List.getLast?_cons_of_ne_nil (List.cons_ne_nil _ _),
      List.getLast?_cons_of_ne_nil (List.append_ne_nil_of_left_ne_nil hnetlocList _)]
  rcases path_of_tail (hempty hparts.2.2) (hempty hparts.2.1) with
    ⟨hquestion, hhash⟩ | ⟨rfl, hends, hsame⟩
  · have hslashes : ∀ c, c ≠ '/' → c ∉ tail' → ∀ n, c ∉ tail' ++ List.replicate n '/' := by
      intro c hc htail' n hmem
      rcases List.mem_append.1 hmem with hmem | hmem
      · exact htail' hmem
      · exact hc (List.eq_of_mem_replicate hmem)
    have hquestions := hslashes '?' (by decide) hquestion
    have hhashes := hslashes '#' (by decide) hhash
    rw [partitionAt_of_notMem (hhashes m), partitionAt_of_notMem (hquestions m)] at hpath
    obtain ⟨j, hj⟩ := exists_slashes tail'
    have hbasePath : basePath base = tail'.rdropWhile (· == '/') := by
      rw [basePath, hpath, rdropWhile_slashes]
    have hopen : ¬OpenEnded baseUrl := by
      have hnone : ∀ c, c ∉ base.netloc.toList → c ∉ tail' ++ List.replicate m '/' →
          (cleanUrl baseUrl).getLast? ≠ some c := by
        intro c hfront hback hsome
        rw [hlast] at hsome
        exact (List.mem_append.1 (List.mem_of_getLast? hsome)).elim hfront hback
      rintro (hsome | hsome)
      · exact hnone '?' (fun hmem => absurd (hauthority.netloc _ hmem) (by decide))
          (hquestions m) hsome
      · exact hnone '#' (fun hmem => absurd (hauthority.netloc _ hmem) (by decide))
          (hhashes m) hsome
    have hslash : tail' ++ ['/'] = basePath base ++ List.replicate (j + 1) '/' := by
      rw [hbasePath, List.replicate_succ', ← List.append_assoc, ← hj]
    have hhash' : '#' ∉ tail' ++ ['/'] := hhashes 1
    have hquestion' : '?' ∉ tail' ++ ['/'] := hquestions 1
    rw [partitionAt_of_notMem hhash', partitionAt_of_notMem hquestion', hslash] at hsplit
    exact ⟨j + 1, _, _, hsplit, fun _ => .inl hopen, fun _ => .inl (Nat.succ_ne_zero j)⟩
  · rw [List.replicate_zero, List.append_nil] at hpath hlast
    obtain ⟨k, hk⟩ := exists_slashes base.path.toList
    rw [hsame, ← hpath, hk] at hsplit
    have hopen : OpenEnded baseUrl := by
      have hne : tail' ≠ [] := by
        rintro rfl
        rcases hends with hends | hends <;> cases hends
      rw [OpenEnded, hlast, List.getLast?_append_of_ne_nil _ hne]
      exact hends
    refine ⟨k, _, _, hsplit, fun hslash => .inr ?_, fun hclosed => ?_⟩
    · rcases Nat.eq_zero_or_pos k with rfl | hpos
      · refine .inl (String.toList_inj.1 ?_)
        rw [hk, List.replicate_zero, List.append_nil]
        exact hslash.resolve_left fun h => h rfl
      · obtain ⟨k, rfl⟩ := Nat.exists_eq_add_one_of_ne_zero (Nat.ne_of_gt hpos)
        right
        rw [hk, List.replicate_succ', ← List.append_assoc, List.getLast?_concat]
    · rcases hclosed with hclosed | hclosed | hclosed
      · exact absurd hopen hclosed
      · right
        rw [basePath, hclosed]
        rfl
      · left
        rintro rfl
        rw [List.replicate_zero, List.append_nil] at hk
        have hne : base.path.toList ≠ [] := by
          intro hnil
          rw [hnil] at hclosed
          cases hclosed
        have hnot := List.rdropWhile_eq_self_iff.1 hk.symm hne
        rw [List.getLast?_eq_some_getLast hne, Option.some.injEq] at hclosed
        rw [hclosed] at hnot
        exact hnot rfl

/-! ## The joined URL -/

omit [Runtime] in
/-- A path and a query to be joined onto a base URL. -/
structure Relative (path query : List Char) : Prop where
  first : ∃ c rest, path = c :: rest ∧ c ≠ '/' ∧ controlOrSpace c = false
  path : ∀ c ∈ path, c ≠ ':' ∧ c ≠ '?' ∧ c ≠ '#' ∧ c ≠ ';' ∧ unsafeUrlByte c = false
  query : ∀ c ∈ query, c ≠ ':' ∧ c ≠ '#' ∧ unsafeUrlByte c = false

/-- The query behind its question mark. -/
def queryText (query : List Char) : List Char := if query = [] then [] else '?' :: query

section Relative

variable {path query : List Char}

omit [Runtime] in
lemma mem_queryText {c : Char} (h : c ∈ queryText query) : c = '?' ∨ c ∈ query := by
  unfold queryText at h
  split at h
  · cases h
  · exact List.mem_cons.1 h

omit [Runtime] in
lemma partitionAt_queryText (hpath : '?' ∉ path) :
    (partitionAt '?' (path ++ queryText query)).1 = path ∧
      (partitionAt '?' (path ++ queryText query)).2.2 = query := by
  unfold queryText
  split
  · rename_i hempty
    rw [List.append_nil, partitionAt_of_notMem hpath]
    exact ⟨rfl, hempty.symm⟩
  · rw [partitionAt_append hpath]
    exact ⟨rfl, rfl⟩

lemma urlsplit_relative (h : Relative path query) :
    urlsplit (String.ofList (path ++ queryText query)) =
      .ok ⟨"", "", String.ofList path, String.ofList query, ""⟩ := by
  obtain ⟨c, rest, rfl, hslash, hcontrol⟩ := h.first
  have hchars : ∀ d ∈ c :: rest ++ queryText query,
      d ≠ ':' ∧ d ≠ '#' ∧ unsafeUrlByte d = false := by
    intro d hd
    rcases List.mem_append.1 hd with hd | hd
    · have hd := h.path d hd
      exact ⟨hd.1, hd.2.2.1, hd.2.2.2.2⟩
    · rcases mem_queryText hd with rfl | hd
      · decide
      · exact h.query d hd
  have hclean : cleanUrl (String.ofList (c :: rest ++ queryText query)) =
      c :: rest ++ queryText query := by
    rw [cleanUrl, String.toList_ofList, List.cons_append,
      List.dropWhile_cons_of_neg (by simp [hcontrol]), List.filter_eq_self]
    intro d hd
    rw [(hchars d hd).2.2]
    rfl
  have hcolon : ':' ∉ c :: rest ++ queryText query := fun hmem => (hchars _ hmem).1 rfl
  have hhash : '#' ∉ c :: rest ++ queryText query := fun hmem => (hchars _ hmem).2.1 rfl
  have hscheme : splitScheme (c :: rest ++ queryText query) =
      ("", c :: rest ++ queryText query) := by
    rw [splitScheme, partitionAt_of_notMem hcolon]
    rfl
  have hnetloc : splitNetloc (c :: rest ++ queryText query) =
      ([], c :: rest ++ queryText query) := by
    rw [splitNetloc]
    rintro tail htail
    exact hslash (List.cons.inj htail).1
  have hquestion : '?' ∉ c :: rest := fun hmem => (h.path _ hmem).2.1 rfl
  obtain ⟨hpath, hquery⟩ := @partitionAt_queryText _ query hquestion
  rw [urlsplit_eq, hclean, hscheme, hnetloc]
  have hempty : splitTail "" [] [] = .ok ⟨"", "", "", "", ""⟩ := rfl
  dsimp only
  rw [splitTail_eq_ok hempty, partitionAt_of_notMem hhash, hpath, hquery]

omit [Runtime] in
lemma splitParams_of_notMem (h : ';' ∉ path) : splitParams path = (path, []) := by
  have hafter : ';' ∉ afterLast '/' path := fun hmem => h (mem_afterLast hmem).1
  have hsuffix : afterLast '/' path <:+ path := by
    rw [afterLast, ← List.reverse_prefix, List.reverse_reverse]
    exact List.takeWhile_prefix _
  obtain ⟨front, hfront⟩ := hsuffix
  have hlength := congrArg List.length hfront
  rw [List.length_append] at hlength
  have htake : path.take (path.length - (afterLast '/' path).length) = front := by
    rw [← hlength, Nat.add_sub_cancel, ← hfront]
    exact List.take_left
  rw [splitParams, partitionAt_of_notMem hafter]
  dsimp only
  rw [htake, hfront]

omit [Runtime] in
lemma mem_splitParams {c : Char} (h : c ∈ (splitParams path).1) : c ∈ path := by
  unfold splitParams at h
  rcases List.mem_append.1 h with h | h
  · exact List.mem_of_mem_take h
  · exact (mem_afterLast (mem_of_mem_partitionAt_fst h)).1

/-- A base URL that the settings accept, and how it is split with one slash at its end. -/
structure Base (baseUrl : String) (base : SplitResult) (path : List Char) : Prop where
  split : urlsplit baseUrl = .ok base
  web : webScheme base.scheme = true
  located : base.netloc ≠ ""
  slashed : ∃ query fragment, urlsplit (normalizedBase baseUrl) =
    .ok ⟨base.scheme, base.netloc, String.ofList path, query, fragment⟩

variable {baseUrl : String} {base : SplitResult} {slashed : List Char}

lemma Base.scheme_ne (hbase : Base baseUrl base slashed) : base.scheme ≠ "" := by
  intro hempty
  have hweb := hbase.web
  rw [hempty] at hweb
  exact absurd hweb (by decide)

omit [Runtime] in
/-- The URL of a path and a query behind an authority. -/
def builtUrl (base : SplitResult) (path query : List Char) : String :=
  String.ofList (base.scheme.toList ++ ':' :: '/' :: '/' :: (base.netloc.toList ++
    (path ++ queryText query)))

omit [Runtime] in
lemma urlunsplit_rooted {scheme netloc : String} (hpath : path ≠ []) :
    (urlunsplit scheme netloc (String.ofList path)).toList =
      scheme.toList ++ ':' :: '/' :: '/' :: (netloc.toList ++ rooted path) := by
  have hne : String.ofList path ≠ "" := by
    intro heq
    exact hpath (by simpa using congrArg String.toList heq)
  unfold urlunsplit rooted
  rw [String.toList_ofList]
  by_cases hslash : path.head? = some '/'
  · rw [if_pos hslash, if_neg (fun h => h.2 hslash)]
    simp
  · rw [if_neg hslash, if_pos ⟨hne, hslash⟩]
    simp

lemma urljoin_eq (hbase : Base baseUrl base slashed) (h : Relative path query) :
    urljoin (normalizedBase baseUrl) (String.ofList (path ++ queryText query)) =
      .ok (builtUrl base (rooted (joinPath (splitParams slashed).1 path)) query) := by
  obtain ⟨baseQuery, fragment, hslashed⟩ := hbase.slashed
  have hne : normalizedBase baseUrl ≠ "" := by
    intro heq
    have := congrArg String.toList heq
    rw [normalizedBase, String.toList_append] at this
    exact absurd (List.append_eq_nil_iff.1 this).2 (by decide)
  obtain ⟨c, rest, hpath, -⟩ := h.first
  have hrelative : String.ofList (path ++ queryText query) ≠ "" := by
    intro heq
    have := congrArg String.toList heq
    rw [String.toList_ofList, hpath] at this
    cases this
  have hscheme := hbase.scheme_ne
  have hbaseParse : urlparse (normalizedBase baseUrl) "" = .ok
      { scheme := base.scheme, netloc := base.netloc,
        path := String.ofList (splitParams slashed).1, query := baseQuery, fragment,
        params := String.ofList (splitParams slashed).2 } := by
    rw [urlparse, hslashed]
    simp only [bind, Except.bind, if_neg hscheme, hbase.web, or_true, if_true,
      String.toList_ofList]
    rfl
  have hsemicolon : ';' ∉ path := fun hmem => (h.path _ hmem).2.2.2.1 rfl
  have hrelativeParse : urlparse (String.ofList (path ++ queryText query)) base.scheme = .ok
      { scheme := base.scheme, netloc := "", path := String.ofList path,
        query := String.ofList query, fragment := "", params := "" } := by
    rw [urlparse, urlsplit_relative h]
    simp only [bind, Except.bind, if_true, hbase.web, or_true, String.toList_ofList,
      splitParams_of_notMem hsemicolon]
    rfl
  have hpathText : String.ofList path ≠ "" := by
    intro heq
    have := congrArg String.toList heq
    rw [String.toList_ofList, hpath] at this
    cases this
  rw [urljoin, if_neg hne, if_neg hrelative, hbaseParse]
  simp only [bind, Except.bind, hrelativeParse, hbase.web, ne_eq, not_true_eq_false, Bool.not_true,
    Bool.false_eq_true, or_self, if_false, hpathText, false_and, String.toList_ofList]
  refine congrArg Except.ok (String.toList_inj.1 ?_)
  have hquery : (if String.ofList query = "" then "" else "?" ++ String.ofList query).toList =
      queryText query := by
    unfold queryText
    by_cases hempty : query = []
    · rw [if_pos hempty, hempty]
      rfl
    · have htext : String.ofList query ≠ "" := by
        intro heq
        exact hempty (by simpa using congrArg String.toList heq)
      rw [if_neg hempty, if_neg htext]
      simp
  unfold urlunparse
  dsimp only
  rw [if_pos rfl, if_pos rfl, String.append_empty, String.toList_append, hquery,
    urlunsplit_rooted (joinPath_ne_nil _ _), builtUrl, String.toList_ofList]
  simp

omit [Runtime] in
lemma webScheme_iff {scheme : String} :
    webScheme scheme = true ↔ scheme = "http" ∨ scheme = "https" := by
  simp [webScheme]

/-- A URL that is built from the authority of the base URL is split into it again. -/
lemma urlsplit_builtUrl (laws : UnicodeLaws) (hbase : Base baseUrl base slashed)
    (hhead : path.head? = some '/')
    (hpath : ∀ c ∈ path, c ≠ '?' ∧ c ≠ '#' ∧ unsafeUrlByte c = false)
    (hquery : ∀ c ∈ query, c ≠ '#' ∧ unsafeUrlByte c = false) :
    urlsplit (builtUrl base path query) =
      .ok ⟨base.scheme, base.netloc, String.ofList path, String.ofList query, ""⟩ := by
  have hsplit := urlsplit_split hbase.split
  have hlower : Runtime.lower base.scheme = base.scheme := by
    rcases hsplit.scheme with hempty | ⟨s, hs⟩
    · exact absurd hempty hbase.scheme_ne
    · rw [hs, laws.lower_lower]
  have hscheme : ':' ∉ base.scheme.toList ∧
      (base.scheme.toList.head?.any Char.isAlpha && base.scheme.toList.all schemeChar) = true ∧
      base.scheme.toList.all (fun c => !unsafeUrlByte c) = true ∧
      base.scheme.toList.dropWhile controlOrSpace = base.scheme.toList ∧
      base.scheme.toList ≠ [] := by
    rcases webScheme_iff.1 hbase.web with hweb | hweb
    · rw [hweb]
      decide
    · rw [hweb]
      decide
  have hauthority : Authority base.scheme.toList base.netloc.toList (path ++ queryText query) := by
    refine ⟨hscheme.1, hscheme.2.1, fun c hc => (hsplit.netloc c hc).1, fun c hc => ?_⟩
    rw [List.head?_append, hhead] at hc
    cases hc
    decide
  have hsafe : ∀ c ∈ path ++ queryText query, c ≠ '#' ∧ unsafeUrlByte c = false := by
    intro c hc
    rcases List.mem_append.1 hc with hc | hc
    · exact (hpath c hc).2
    · rcases mem_queryText hc with rfl | hc
      · decide
      · exact hquery c hc
  have hclean : cleanUrl (builtUrl base path query) = base.scheme.toList ++ ':' :: '/' :: '/' ::
      (base.netloc.toList ++ (path ++ queryText query)) := by
    rw [cleanUrl, builtUrl, String.toList_ofList, List.dropWhile_append, hscheme.2.2.2.1,
      if_neg (by simpa using hscheme.2.2.2.2), List.filter_eq_self]
    intro c hc
    rcases List.mem_append.1 hc with hc | hc
    · exact List.all_eq_true.1 hscheme.2.2.1 c hc
    simp only [List.mem_cons] at hc
    rcases hc with rfl | rfl | rfl | hc
    · rfl
    · rfl
    · rfl
    · rcases List.mem_append.1 hc with hc | hc
      · rw [(hsplit.netloc c hc).2]
        rfl
      · rw [(hsafe c hc).2]
        rfl
  obtain ⟨_, _, -, -, -, htail⟩ := clean_of_urlsplit hbase.split hbase.scheme_ne hbase.located
  have hquestion : '?' ∉ path := fun hmem => (hpath _ hmem).1 rfl
  obtain ⟨hfirst, hsecond⟩ := @partitionAt_queryText _ query hquestion
  rw [urlsplit_of_clean hauthority hclean, String.ofList_toList, hlower, splitTail_eq_ok htail,
    partitionAt_of_notMem fun hmem => (hsafe _ hmem).1 rfl, hfirst, hsecond, String.ofList_toList]

/-- `_trusted_url` checks what does not depend on the path: the port of the base URL, and that
there is no user in it. -/
lemma trustedUrl_eq (laws : UnicodeLaws) (hbase : Base baseUrl base slashed)
    (h : Relative path query) :
    ∃ url, urlsplit url = .ok ⟨base.scheme, base.netloc,
        String.ofList (rooted (joinPath (splitParams slashed).1 path)), String.ofList query, ""⟩ ∧
      trustedUrl baseUrl (String.ofList (path ++ queryText query)) = (do
        let _ ← base.port
        if base.netloc.toList.contains '@' then
          throw (.valueError "provider URL escaped the configured host")
        pure url) := by
  obtain ⟨baseQuery, fragment, hslashed⟩ := hbase.slashed
  have hchars := urlsplit_split hslashed
  have hjoined : ∀ c ∈ rooted (joinPath (splitParams slashed).1 path),
      c ≠ '?' ∧ c ≠ '#' ∧ unsafeUrlByte c = false := by
    intro c hc
    rcases mem_joinPath hc with rfl | hc | hc
    · decide
    · exact hchars.path c (by rw [String.toList_ofList]; exact mem_splitParams hc)
    · have hc := h.path c hc
      exact ⟨hc.2.1, hc.2.2.1, hc.2.2.2.2⟩
  have hhead : (rooted (joinPath (splitParams slashed).1 path)).head? = some '/' := by
    unfold rooted
    split
    · assumption
    · rfl
  have hsplit := urlsplit_builtUrl laws hbase hhead hjoined fun c hc => (h.query c hc).2
  refine ⟨_, hsplit, ?_⟩
  obtain ⟨c, rest, rfl, hslash, -⟩ := h.first
  have hprefix : ¬['/', '/'] <+: (String.ofList (c :: rest ++ queryText query)).toList := by
    rw [String.toList_ofList]
    intro hprefix
    exact hslash (List.cons_prefix_cons.1 hprefix).1.symm
  have hstrip : String.ofList ((String.ofList (c :: rest ++ queryText query)).toList.dropWhile
      (· == '/')) = String.ofList (c :: rest ++ queryText query) := by
    rw [String.toList_ofList, List.cons_append, List.dropWhile_cons_of_neg (by simpa using hslash)]
  have hhostname : ∀ p q f p' q' f', (⟨base.scheme, base.netloc, p, q, f⟩ : SplitResult).hostname =
      (⟨base.scheme, base.netloc, p', q', f'⟩ : SplitResult).hostname := fun _ _ _ _ _ _ => rfl
  have hport : ∀ p q f, (⟨base.scheme, base.netloc, p, q, f⟩ : SplitResult).port = base.port :=
    fun _ _ _ => rfl
  rw [trustedUrl, if_neg hprefix, hstrip, urljoin_eq hbase h, hslashed]
  simp only [bind, Except.bind, hsplit]
  rw [if_neg (fun hne => hne.elim (fun h => h rfl) fun h => h (hhostname _ _ _ _ _ _)), hport]
  cases hbasePort : base.port with
  | error e => rfl
  | ok port =>
    dsimp only
    rw [hport, hbasePort]
    simp

end Relative

end Urls

end DeploymentLab
