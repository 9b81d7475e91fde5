import Mathlib
import DeploymentLab.Library.Reading
import DeploymentLab.Model.Url
import DeploymentLab.Model.World

/-!
# The canonical form of a source URL

A source URL is split, put together again from its scheme, host, port and path, and split once
more when the evidence is recorded. The second split finds the same parts as the first one unless
the host stood in brackets and needs them to be read.
-/

namespace DeploymentLab

open Reading

/-- The characters that end a host, or set its user or its port apart. -/
def hostDelimiters : List Char := ['/', '?', '#', '@', ':']

/-- What Unicode says of lower case and of NFKC, as far as the parts of a URL depend on it: letters
change into letters, and a delimiter is in a normal form only for a character that stands for it. -/
structure UnicodeLaws [Runtime] : Prop where
  lower_lower : ∀ s, Runtime.lower (Runtime.lower s) = Runtime.lower s
  lower_ne_empty : ∀ s, s ≠ "" → Runtime.lower s ≠ ""
  lower_ascii : ∀ s, ∀ c : Char, c.toNat < 128 → c.isAlpha = false →
    (c ∈ (Runtime.lower s).toList ↔ c ∈ s.toList)
  nfkc_ascii : ∀ c : Char, c.toNat < 128 →
    Runtime.nfkc (String.singleton c) = String.singleton c
  nfkc_delimiter : ∀ c ∈ hostDelimiters, ∀ s, c ∈ (Runtime.nfkc s).toList ↔
    ∃ d ∈ s.toList, c ∈ (Runtime.nfkc (String.singleton d)).toList
  lower_delimiter : ∀ c ∈ hostDelimiters, ∀ s, ∀ d ∈ (Runtime.lower s).toList,
    c ∈ (Runtime.nfkc (String.singleton d)).toList →
      ∃ d' ∈ s.toList, c ∈ (Runtime.nfkc (String.singleton d')).toList

section Urls

variable [Runtime]

lemma splitScheme_cases (url : List Char) :
    splitScheme url = ("", url) ∨
      ∃ scheme, splitScheme url = (Runtime.lower scheme, (partitionAt ':' url).2.2) := by
  unfold splitScheme
  split
  rename_i head found tail heq
  split
  · exact .inr ⟨String.ofList head, by rw [heq]⟩
  · exact .inl rfl

omit [Runtime] in
/-- The text that is split: no blanks in front, no tabs and line breaks. -/
def cleanUrl (url : String) : List Char :=
  (url.toList.dropWhile controlOrSpace).filter fun c => !unsafeUrlByte c

omit [Runtime] in
/-- The authority behind two slashes, and what follows it. -/
def splitNetloc : List Char → List Char × List Char
  | '/' :: '/' :: rest =>
    (rest.takeWhile fun c => !netlocDelimiter c, rest.dropWhile fun c => !netlocDelimiter c)
  | rest => ([], rest)

/-- The parts of a text whose scheme and authority are read. -/
def splitTail (scheme : String) (netloc tail : List Char) : Except Exn SplitResult :=
  if netloc.contains '[' != netloc.contains ']' then .error (.valueError "Invalid IPv6 URL")
  else if netloc.contains '[' && netloc.contains ']' && !bracketedNetlocAllowed netloc then
    .error (.valueError "Invalid IPv6 URL")
  else if !netlocAllowed netloc then
    .error (.valueError "netloc contains invalid characters under NFKC normalization")
  else .ok {
    scheme
    netloc := String.ofList netloc
    path := String.ofList (partitionAt '?' (partitionAt '#' tail).1).1
    query := String.ofList (partitionAt '?' (partitionAt '#' tail).1).2.2
    fragment := String.ofList (partitionAt '#' tail).2.2 }

lemma urlsplit_eq (url : String) :
    urlsplit url = splitTail (splitScheme (cleanUrl url)).1
      (splitNetloc (splitScheme (cleanUrl url)).2).1
      (splitNetloc (splitScheme (cleanUrl url)).2).2 := by
  have hthrow : ∀ {b : Bool} {x : Exn} {r : Except Exn SplitResult},
      (if b then (do throw x; r) else r) = if b then .error x else r := by
    intro b x r
    cases b with
    | false => rfl
    | true => rfl
  unfold urlsplit
  dsimp only
  split
  · rename_i rest hrest
    unfold cleanUrl
    rw [hrest, hthrow, hthrow, hthrow]
    rfl
  · rename_i hrest
    have hnone : splitNetloc (splitScheme (cleanUrl url)).2 =
        ([], (splitScheme (cleanUrl url)).2) := by
      rw [splitNetloc]
      exact hrest
    rw [hnone, hthrow, hthrow, hthrow]
    rfl

omit [Runtime] in
lemma splitNetloc_chars (rest : List Char) :
    (∀ c ∈ (splitNetloc rest).1, c ∈ rest ∧ netlocDelimiter c = false) ∧
      ∀ c ∈ (splitNetloc rest).2, c ∈ rest := by
  fun_cases splitNetloc rest with
  | case1 rest =>
    refine ⟨fun c hc => ⟨?_, ?_⟩, fun c hc => ?_⟩
    · exact List.mem_cons_of_mem _ (List.mem_cons_of_mem _ (List.takeWhile_subset _ hc))
    · simpa using List.mem_takeWhile_imp hc
    · exact List.mem_cons_of_mem _ (List.mem_cons_of_mem _ (List.dropWhile_subset _ hc))
  | case2 rest => exact ⟨by simp, fun c hc => hc⟩

omit [Runtime] in
/-- An authority ends where a path, a query or a fragment begins. -/
lemma splitNetloc_ends (rest : List Char) :
    (splitNetloc rest).1 = [] ∨ ∀ c ∈ (splitNetloc rest).2.head?, netlocDelimiter c = true := by
  fun_cases splitNetloc rest with
  | case1 rest =>
    right
    intro c hc
    have hhead := List.head?_dropWhile_not (fun c => !netlocDelimiter c) rest
    rw [Option.mem_def.1 hc] at hhead
    simpa using hhead
  | case2 rest => exact .inl rfl

/-- What a split gives. -/
structure Split (parsed : SplitResult) : Prop where
  scheme : parsed.scheme = "" ∨ ∃ s, parsed.scheme = Runtime.lower s
  netloc : ∀ c ∈ parsed.netloc.toList, netlocDelimiter c = false ∧ unsafeUrlByte c = false
  path : ∀ c ∈ parsed.path.toList, c ≠ '?' ∧ c ≠ '#' ∧ unsafeUrlByte c = false
  rooted : parsed.netloc = "" ∨ parsed.path = "" ∨ parsed.path.toList.head? = some '/'
  allowed : netlocAllowed parsed.netloc.toList = true

lemma urlsplit_split {url : String} {parsed : SplitResult} (h : urlsplit url = .ok parsed) :
    Split parsed := by
  have hclean : ∀ c ∈ cleanUrl url, unsafeUrlByte c = false := by
    intro c hc
    simpa using (List.mem_filter.1 hc).2
  have hrest : ∀ c ∈ (splitScheme (cleanUrl url)).2, unsafeUrlByte c = false := by
    intro c hc
    rcases splitScheme_cases (cleanUrl url) with hnone | ⟨s, hsome⟩
    · rw [hnone] at hc
      exact hclean c hc
    · rw [hsome] at hc
      exact hclean c (mem_of_mem_partitionAt_snd hc)
  have hscheme : (splitScheme (cleanUrl url)).1 = "" ∨
      ∃ s, (splitScheme (cleanUrl url)).1 = Runtime.lower s := by
    rcases splitScheme_cases (cleanUrl url) with hnone | ⟨s, hsome⟩
    · exact .inl (congrArg Prod.fst hnone)
    · exact .inr ⟨s, congrArg Prod.fst hsome⟩
  rw [urlsplit_eq] at h
  generalize (splitScheme (cleanUrl url)).1 = scheme at h hscheme
  generalize (splitScheme (cleanUrl url)).2 = rest at h hrest
  obtain ⟨hnetloc, htail⟩ := splitNetloc_chars rest
  have hends := splitNetloc_ends rest
  generalize (splitNetloc rest).1 = netloc at h hnetloc hends
  generalize (splitNetloc rest).2 = tail at h htail hends
  unfold splitTail at h
  split at h
  · cases h
  split at h
  · cases h
  split at h
  · cases h
  rename_i hallowed
  obtain rfl := Except.ok.inj h
  refine ⟨hscheme, ?_, ?_, ?_, ?_⟩
  · intro c hc
    rw [String.toList_ofList] at hc
    exact ⟨(hnetloc c hc).2, hrest c (hnetloc c hc).1⟩
  · intro c hc
    rw [String.toList_ofList] at hc
    have hbefore := mem_of_mem_partitionAt_fst hc
    refine ⟨?_, ?_, hrest c (htail c (mem_of_mem_partitionAt_fst hbefore))⟩
    · rintro rfl
      exact notMem_partitionAt hc
    · rintro rfl
      exact notMem_partitionAt hbefore
  · rcases hends with rfl | hends
    · exact .inl rfl
    · cases tail with
      | nil => exact .inr (.inl rfl)
      | cons c tail =>
        have hdelimiter := hends c rfl
        simp only [netlocDelimiter, Bool.or_eq_true, beq_iff_eq] at hdelimiter
        rcases hdelimiter with (rfl | rfl) | rfl
        · exact .inr (.inr (by simp [partitionAt]))
        · exact .inr (.inl (by simp [partitionAt]))
        · exact .inr (.inl (by simp [partitionAt]))
  · rw [String.toList_ofList]
    simpa using hallowed

/-- The parts that a canonical URL is put together from. -/
structure Parts (scheme : String) (netloc path : List Char) : Prop where
  web : scheme = "http" ∨ scheme = "https"
  lowered : Runtime.lower scheme = scheme
  authority : ∀ c ∈ netloc, netlocDelimiter c = false ∧ unsafeUrlByte c = false
  location : ∀ c ∈ path, c ≠ '?' ∧ c ≠ '#' ∧ unsafeUrlByte c = false
  rooted : path = [] ∨ path.head? = some '/'

section Built

variable {scheme : String} {netloc path : List Char}

lemma urlunsplit_toList (hparts : Parts scheme netloc path) :
    (urlunsplit scheme (String.ofList netloc) (String.ofList path)).toList =
      scheme.toList ++ ':' :: '/' :: '/' :: (netloc ++ path) := by
  have hpath : ¬(String.ofList path ≠ "" ∧ (String.ofList path).toList.head? ≠ some '/') := by
    rw [String.toList_ofList]
    rintro ⟨hne, hhead⟩
    rcases hparts.rooted with rfl | hrooted
    · exact hne rfl
    · exact hhead hrooted
  unfold urlunsplit
  dsimp only
  rw [if_neg hpath]
  simp

lemma cleanUrl_built (hparts : Parts scheme netloc path) :
    cleanUrl (urlunsplit scheme (String.ofList netloc) (String.ofList path)) =
      scheme.toList ++ ':' :: '/' :: '/' :: (netloc ++ path) := by
  have hscheme : scheme.toList.any unsafeUrlByte = false := by
    rcases hparts.web with rfl | rfl
    · decide
    · decide
  have hfront : (scheme.toList ++ ':' :: '/' :: '/' :: (netloc ++ path)).dropWhile
      controlOrSpace = scheme.toList ++ ':' :: '/' :: '/' :: (netloc ++ path) := by
    rcases hparts.web with rfl | rfl
    · simp [controlOrSpace]
    · simp [controlOrSpace]
  rw [cleanUrl, urlunsplit_toList hparts, hfront, List.filter_eq_self]
  intro c hc
  have hsafe : unsafeUrlByte c = false := by
    simp only [List.mem_append, List.mem_cons] at hc
    rcases hc with hc | rfl | rfl | rfl | hc | hc
    · exact Bool.eq_false_iff.2 (List.any_eq_false.1 hscheme c hc)
    · decide
    · decide
    · decide
    · exact (hparts.authority c hc).2
    · exact (hparts.location c hc).2.2
  rw [hsafe]
  rfl

/-- The parts that a text is put together from are read again, if they are read at all. -/
lemma urlsplit_built (hparts : Parts scheme netloc path) :
    urlsplit (urlunsplit scheme (String.ofList netloc) (String.ofList path)) =
      splitTail scheme netloc path := by
  have hscheme : splitScheme (scheme.toList ++ ':' :: '/' :: '/' :: (netloc ++ path)) =
      (scheme, '/' :: '/' :: (netloc ++ path)) := by
    have hchars : ':' ∉ scheme.toList ∧ scheme.toList.head?.any Char.isAlpha = true ∧
        scheme.toList.all schemeChar = true := by
      rcases hparts.web with rfl | rfl
      · decide
      · decide
    unfold splitScheme
    rw [partitionAt_append hchars.1]
    dsimp only
    rw [hchars.2.1, hchars.2.2, Bool.and_self, Bool.and_self, if_pos rfl, String.ofList_toList,
      hparts.lowered]
  have hnetloc : splitNetloc ('/' :: '/' :: (netloc ++ path)) = (netloc, path) := by
    have htake : ∀ c ∈ netloc, (!netlocDelimiter c) = true := by
      intro c hc
      rw [(hparts.authority c hc).1]
      rfl
    have hstop : path.takeWhile (fun c => !netlocDelimiter c) = [] ∧
        path.dropWhile (fun c => !netlocDelimiter c) = path := by
      cases path with
      | nil => exact ⟨rfl, rfl⟩
      | cons c path =>
        rcases hparts.rooted with hnil | hrooted
        · cases hnil
        · obtain rfl : c = '/' := Option.some.inj hrooted
          exact ⟨rfl, rfl⟩
    rw [splitNetloc, List.takeWhile_append_of_pos htake, List.dropWhile_append_of_pos htake,
      hstop.1, hstop.2, List.append_nil]
  rw [urlsplit_eq, cleanUrl_built hparts, hscheme, hnetloc]

lemma partitionAt_path (hparts : Parts scheme netloc path) :
    partitionAt '#' path = (path, false, []) ∧ partitionAt '?' path = (path, false, []) := by
  constructor
  · apply partitionAt_of_notMem
    intro hmem
    exact (hparts.location _ hmem).2.1 rfl
  · apply partitionAt_of_notMem
    intro hmem
    exact (hparts.location _ hmem).1 rfl

end Built

/-- No delimiter is in the normal form of the character. -/
def Innocuous (c : Char) : Prop :=
  ∀ d ∈ hostDelimiters, d ∉ (Runtime.nfkc (String.singleton c)).toList

omit [Runtime] in
lemma netlocDelimiter_eq_false {c : Char} :
    netlocDelimiter c = false ↔ c ≠ '/' ∧ c ≠ '?' ∧ c ≠ '#' := by
  simp [netlocDelimiter, and_assoc]

lemma innocuous_ascii (laws : UnicodeLaws) {c : Char} (hc : c.toNat < 128)
    (hplain : c ∉ hostDelimiters) : Innocuous c := by
  intro d hd hmem
  rw [laws.nfkc_ascii c hc, String.toList_singleton, List.mem_singleton] at hmem
  rw [hmem] at hd
  exact hplain hd

lemma netlocAllowed_iff (laws : UnicodeLaws) {netloc : List Char}
    (hnetloc : ∀ c ∈ netloc, netlocDelimiter c = false) :
    netlocAllowed netloc = true ↔ ∀ c ∈ netloc, c = '@' ∨ c = ':' ∨ Innocuous c := by
  have hplain : ∀ c ∈ netloc, c ≠ '@' → c ≠ ':' → c ∉ hostDelimiters := by
    intro c hc huser hport
    obtain ⟨hslash, hquery, hfragment⟩ := netlocDelimiter_eq_false.1 (hnetloc c hc)
    simp [hostDelimiters, hslash, hquery, hfragment, huser, hport]
  have hbare : ∀ c, c ∈ netloc.filter (fun c => c ∉ ['@', ':', '#', '?']) ↔
      c ∈ netloc ∧ c ≠ '@' ∧ c ≠ ':' := by
    intro c
    rw [List.mem_filter]
    constructor
    · rintro ⟨hc, hnot⟩
      simp only [List.mem_cons, decide_eq_true_eq, not_or] at hnot
      exact ⟨hc, hnot.1, hnot.2.1⟩
    · rintro ⟨hc, huser, hport⟩
      obtain ⟨-, hquery, hfragment⟩ := netlocDelimiter_eq_false.1 (hnetloc c hc)
      simp [hc, huser, hport, hquery, hfragment]
  unfold netlocAllowed
  dsimp only
  generalize netloc.filter (fun c => c ∉ ['@', ':', '#', '?']) = bare at hbare
  rw [Bool.or_eq_true, Bool.or_eq_true, List.all_eq_true, beq_iff_eq, List.all_eq_true]
  constructor
  · rintro (hascii | hnormal) c hc
    · by_contra hnot
      rw [not_or, not_or] at hnot
      exact hnot.2.2 (innocuous_ascii laws (by simpa using hascii c hc)
        (hplain c hc hnot.1 hnot.2.1))
    · have hclear : ∀ d ∈ hostDelimiters, d ∉ (Runtime.nfkc (String.ofList bare)).toList := by
        intro d hd hmem
        rcases hnormal with hsame | hclear
        · rw [hsame, String.toList_ofList, hbare] at hmem
          exact hplain d hmem.1 hmem.2.1 hmem.2.2 hd
        · have := hclear d hmem
          simp only [hostDelimiters] at hd
          simp [hd] at this
      by_contra hnot
      rw [not_or, not_or] at hnot
      apply hnot.2.2
      intro d hd hmem
      apply hclear d hd
      rw [laws.nfkc_delimiter d hd, String.toList_ofList]
      exact ⟨c, (hbare c).2 ⟨hc, hnot.1, hnot.2.1⟩, hmem⟩
  · intro hinnocuous
    refine .inr (.inr fun d hmem => ?_)
    by_contra hnot
    have hd : d ∈ hostDelimiters := by
      rw [decide_eq_true_iff, not_not] at hnot
      exact hnot
    rw [laws.nfkc_delimiter d hd, String.toList_ofList] at hmem
    obtain ⟨c, hc, hmem⟩ := hmem
    obtain ⟨hc, huser, hport⟩ := (hbare c).1 hc
    rcases hinnocuous c hc with heq | heq | hclear
    · exact huser heq
    · exact hport heq
    · exact hclear d hd hmem

section Hosts

variable {parsed : SplitResult}

omit [Runtime] in
lemma mem_afterLast {sep c : Char} {cs : List Char} (h : c ∈ afterLast sep cs) :
    c ∈ cs ∧ c ≠ sep := by
  unfold afterLast at h
  rw [List.mem_reverse] at h
  refine ⟨List.mem_reverse.1 (List.takeWhile_subset _ h), ?_⟩
  simpa using List.mem_takeWhile_imp h

omit [Runtime] in
lemma afterLast_of_notMem {sep : Char} {cs : List Char} (h : sep ∉ cs) :
    afterLast sep cs = cs := by
  unfold afterLast
  rw [List.takeWhile_eq_self_iff.2, List.reverse_reverse]
  intro c hc
  rw [List.mem_reverse] at hc
  rw [decide_eq_true_iff]
  rintro rfl
  exact h hc

omit [Runtime] in
lemma mem_hostinfo {c : Char} (h : c ∈ parsed.hostinfo.1) :
    c ∈ parsed.netloc.toList ∧ c ≠ '@' := by
  apply mem_afterLast
  unfold SplitResult.hostinfo at h
  dsimp only at h
  split at h
  · exact mem_of_mem_partitionAt_snd (mem_of_mem_partitionAt_fst h)
  · exact mem_of_mem_partitionAt_fst h

omit [Runtime] in
/-- A host has brackets of one kind at most. -/
lemma hostinfo_brackets : '[' ∉ parsed.hostinfo.1 ∨ ']' ∉ parsed.hostinfo.1 := by
  unfold SplitResult.hostinfo
  dsimp only
  split
  · exact .inr notMem_partitionAt
  · rename_i hfound
    left
    intro hmem
    have hnone := partitionAt_not_found (Bool.eq_false_iff.2 hfound)
    have hopen : '[' ∉ afterLast '@' parsed.netloc.toList := by
      have hnot : '[' ∉ (partitionAt '[' (afterLast '@' parsed.netloc.toList)).1 :=
        notMem_partitionAt
      rwa [hnone] at hnot
    exact hopen (mem_of_mem_partitionAt_fst hmem)

omit [Runtime] in
/-- Outside of brackets a host ends at its colon. -/
lemma colon_notMem_hostinfo (h : '[' ∉ parsed.netloc.toList) : ':' ∉ parsed.hostinfo.1 := by
  have hnone : (partitionAt '[' (afterLast '@' parsed.netloc.toList)).2.1 = false := by
    rw [partitionAt_of_notMem fun hmem => h (mem_afterLast hmem).1]
  unfold SplitResult.hostinfo
  dsimp only
  rw [hnone]
  exact notMem_partitionAt

lemma hostname_eq_some {host : String} (h : parsed.hostname = some host) :
    parsed.hostinfo.1 ≠ [] ∧
      host = Runtime.lower (String.ofList (partitionAt '%' parsed.hostinfo.1).1) ++
        String.ofList (if (partitionAt '%' parsed.hostinfo.1).2.1 then
          '%' :: (partitionAt '%' parsed.hostinfo.1).2.2 else []) := by
  unfold SplitResult.hostname at h
  dsimp only at h
  split at h
  · cases h
  · rename_i hne
    exact ⟨by simpa using hne, (Option.some.inj h).symm⟩

/-- Lower case leaves the host its characters, but for letters. -/
lemma mem_hostname_iff (laws : UnicodeLaws) {host : String} (h : parsed.hostname = some host)
    {c : Char} (hascii : c.toNat < 128) (hletter : c.isAlpha = false) :
    c ∈ host.toList ↔ c ∈ parsed.hostinfo.1 := by
  obtain ⟨-, rfl⟩ := hostname_eq_some h
  have hparts := congrArg (c ∈ ·) (partitionAt_parts '%' parsed.hostinfo.1)
  rw [← hparts, String.toList_append, List.mem_append, laws.lower_ascii _ c hascii hletter,
    String.toList_ofList, String.toList_ofList, List.append_assoc, List.mem_append]
  cases hzone : (partitionAt '%' parsed.hostinfo.1).2.1 with
  | true => rfl
  | false =>
    rw [partitionAt_not_found hzone]
    rfl

/-- Nor does it put a delimiter into a normal form. -/
lemma hostname_innocuous (laws : UnicodeLaws) {host : String} (h : parsed.hostname = some host)
    (hinnocuous : ∀ c ∈ parsed.hostinfo.1, Innocuous c) : ∀ c ∈ host.toList, Innocuous c := by
  intro c hc d hd hmem
  obtain ⟨-, rfl⟩ := hostname_eq_some h
  rw [String.toList_append, List.mem_append, String.toList_ofList] at hc
  rcases hc with hc | hc
  · obtain ⟨d', hd', hmem'⟩ := laws.lower_delimiter d hd _ c hc hmem
    rw [String.toList_ofList] at hd'
    exact hinnocuous d' (mem_of_mem_partitionAt_fst hd') d hd hmem'
  · split at hc
    · rename_i hzone
      have hhost : c ∈ parsed.hostinfo.1 := by
        rw [← partitionAt_parts '%' parsed.hostinfo.1, hzone, if_pos rfl, List.append_assoc]
        exact List.mem_append_right _ hc
      exact hinnocuous c hhost d hd hmem
    · cases hc

lemma percent_notMem_lower (laws : UnicodeLaws) {cs : List Char} (h : '%' ∉ cs) :
    '%' ∉ (Runtime.lower (String.ofList cs)).toList := by
  intro hmem
  rw [laws.lower_ascii _ _ (by decide) (by decide), String.toList_ofList] at hmem
  exact h hmem

lemma hostname_ne_nil (laws : UnicodeLaws) {host : String} (h : parsed.hostname = some host) :
    host.toList ≠ [] := by
  obtain ⟨hne, rfl⟩ := hostname_eq_some h
  intro hempty
  rw [String.toList_append, String.toList_ofList] at hempty
  obtain ⟨hlower, hzone⟩ := List.append_eq_nil_iff.1 hempty
  split at hzone
  · cases hzone
  · rename_i hfound
    have hnone := partitionAt_not_found (Bool.eq_false_iff.2 hfound)
    rw [hnone] at hlower
    apply laws.lower_ne_empty (String.ofList parsed.hostinfo.1)
    · intro hnil
      exact hne (by simpa using congrArg String.toList hnil)
    · exact String.toList_inj.1 hlower

/-- The host of a text that has the host as it was read is read alike. -/
lemma hostname_again (laws : UnicodeLaws) {host : String} (h : parsed.hostname = some host)
    {again : SplitResult} (hagain : again.hostinfo.1 = host.toList) :
    again.hostname = some host := by
  have hnonempty := hostname_ne_nil laws h
  obtain ⟨-, hhost⟩ := hostname_eq_some h
  have hpercent := percent_notMem_lower laws
    (notMem_partitionAt : '%' ∉ (partitionAt '%' parsed.hostinfo.1).1)
  generalize (partitionAt '%' parsed.hostinfo.1).1 = address at hhost hpercent
  generalize (partitionAt '%' parsed.hostinfo.1).2.2 = zone at hhost
  unfold SplitResult.hostname
  dsimp only
  rw [hagain, if_neg (by simpa using hnonempty)]
  congr 1
  split at hhost
  · have hparts : partitionAt '%' host.toList =
        ((Runtime.lower (String.ofList address)).toList, true, zone) := by
      rw [hhost, String.toList_append, String.toList_ofList, partitionAt_append hpercent]
    rw [hparts, hhost]
    dsimp only
    rw [String.ofList_toList, laws.lower_lower, if_pos rfl]
  · have hparts : partitionAt '%' host.toList =
        ((Runtime.lower (String.ofList address)).toList, false, []) := by
      rw [hhost, String.toList_append, String.toList_ofList, List.append_nil,
        partitionAt_of_notMem hpercent]
    rw [hparts, hhost]
    dsimp only
    rw [String.ofList_toList, laws.lower_lower]
    rfl

omit [Runtime] in
lemma port_le {p : ℕ} (h : parsed.port = .ok (some p)) : p ≤ 65535 := by
  unfold SplitResult.port at h
  cases hport : parsed.hostinfo.2 with
  | none =>
    rw [hport] at h
    cases h
  | some digits =>
    rw [hport] at h
    dsimp only at h
    by_cases hdigits : digits.all Char.isDigit = true
    · rw [if_pos hdigits] at h
      generalize digits.foldl (fun n c => 10 * n + (c.toNat - 48)) 0 = value at h
      by_cases hle : value ≤ 65535
      · rw [if_pos hle] at h
        rw [← Option.some.inj (Except.ok.inj h)]
        exact hle
      · rw [if_neg hle] at h
        cases h
    · rw [if_neg hdigits] at h
      cases h

omit [Runtime] in
/-- How a canonical URL writes a port. -/
def portSuffix : Option ℕ → String
  | some port => ":" ++ toString port
  | none => ""

omit [Runtime] in
lemma portSuffix_toList (p : ℕ) : (portSuffix (some p)).toList = ':' :: p.repr.toList := by
  unfold portSuffix
  rw [String.toList_append]
  rfl

omit [Runtime] in
lemma port_again {port : Option ℕ} {again : SplitResult} (hle : ∀ p ∈ port, p ≤ 65535)
    (hagain : again.hostinfo.2 = port.map fun p => p.repr.toList) : again.port = .ok port := by
  unfold SplitResult.port
  rw [hagain]
  cases port with
  | none => rfl
  | some p =>
    have hdigits : p.repr.toList.all Char.isDigit = true := by
      rw [List.all_eq_true]
      exact fun c hc => isDigit_of_mem_natRepr hc
    have hvalue : p.repr.toList.foldl (fun n c => 10 * n + (c.toNat - 48)) 0 = p := by
      rw [Nat.toList_repr]
      exact Nat.ofDigitChars_ten_toDigits
    rw [Option.map_some]
    dsimp only
    rw [if_pos hdigits, hvalue, if_pos (hle p rfl)]

omit [Runtime] in
/-- A host without marks and its port are told apart. -/
lemma hostinfo_again {host : List Char} {port : Option ℕ} {again : SplitResult}
    (hnetloc : again.netloc.toList = host ++ (portSuffix port).toList)
    (hhost : '@' ∉ host ∧ '[' ∉ host ∧ ':' ∉ host) :
    again.hostinfo = (host, port.map fun p => p.repr.toList) := by
  obtain ⟨huser, hbracket, hcolon⟩ := hhost
  have hsuffix : '@' ∉ (portSuffix port).toList ∧ '[' ∉ (portSuffix port).toList := by
    cases port with
    | none => simp [portSuffix]
    | some p =>
      have hdigit : ∀ c, c.isDigit = false → c ∉ p.repr.toList := by
        intro c hc hmem
        rw [isDigit_of_mem_natRepr hmem] at hc
        cases hc
      rw [portSuffix_toList, List.mem_cons, List.mem_cons, not_or, not_or]
      exact ⟨⟨by decide, hdigit '@' (by decide)⟩, by decide, hdigit '[' (by decide)⟩
  have hlast : afterLast '@' again.netloc.toList = host ++ (portSuffix port).toList := by
    rw [hnetloc]
    apply afterLast_of_notMem
    rw [List.mem_append, not_or]
    exact ⟨huser, hsuffix.1⟩
  have hopen : '[' ∉ host ++ (portSuffix port).toList := by
    rw [List.mem_append, not_or]
    exact ⟨hbracket, hsuffix.2⟩
  unfold SplitResult.hostinfo
  dsimp only
  rw [hlast, partitionAt_of_notMem hopen]
  dsimp only
  cases port with
  | none =>
    rw [portSuffix, String.toList_empty, List.append_nil, partitionAt_of_notMem hcolon]
    rfl
  | some p =>
    rw [portSuffix_toList, partitionAt_append hcolon]
    simp

end Hosts

/-! ## The canonical form -/

/-- A canonical URL is put together from the scheme, the host, the port and the path as read. -/
structure Canonical (parsed : SplitResult) (host : String) (port : Option ℕ) (result : String) :
    Prop where
  named : parsed.hostname = some host
  web : parsed.scheme = "http" ∨ parsed.scheme = "https"
  numbered : parsed.port = .ok port
  text : result = urlunsplit parsed.scheme (host ++ portSuffix port) parsed.path

lemma canonicalSourceUrl_iff {value result : String} {parsed : SplitResult}
    (hparsed : urlsplit value = .ok parsed) :
    canonicalSourceUrl value = .ok result ↔ ∃ host port, Canonical parsed host port result := by
  unfold canonicalSourceUrl
  rw [hparsed]
  dsimp only [bind, Except.bind]
  cases hhost : parsed.hostname with
  | none =>
    dsimp only
    refine iff_of_false (by rintro ⟨⟩) ?_
    rintro ⟨host, port, hcanonical⟩
    have := hcanonical.named
    rw [hhost] at this
    cases this
  | some host =>
    dsimp only
    split
    · rename_i hscheme
      refine iff_of_false (by rintro ⟨⟩) ?_
      rintro ⟨host, port, hcanonical⟩
      rcases hcanonical.web with h | h
      · exact hscheme.1 h
      · exact hscheme.2 h
    rename_i hscheme
    cases hport : parsed.port with
    | error x =>
      refine iff_of_false (by rintro ⟨⟩) ?_
      rintro ⟨host, port, hcanonical⟩
      have := hcanonical.numbered
      rw [hport] at this
      cases this
    | ok port =>
      dsimp only
      constructor
      · intro h
        refine ⟨host, port, hhost, by tauto, hport, ?_⟩
        rw [← Except.ok.inj h]
        cases port with
        | none => rfl
        | some p => rfl
      · rintro ⟨host', port', hcanonical⟩
        obtain rfl := Option.some.inj (hhost.symm.trans hcanonical.named)
        obtain rfl := Except.ok.inj (hport.symm.trans hcanonical.numbered)
        rw [hcanonical.text]
        cases port with
        | none => rfl
        | some p => rfl

section Canonical

variable {parsed : SplitResult} {host result : String} {port : Option ℕ}

/-- The host of a URL has no mark of an authority, and no character that is dropped. -/
lemma hostname_plain (laws : UnicodeLaws) (hsplit : Split parsed)
    (hhost : parsed.hostname = some host) : ∀ c ∈ host.toList,
      netlocDelimiter c = false ∧ unsafeUrlByte c = false ∧ c ≠ '@' := by
  have hascii : ∀ c ∈ ['/', '?', '#', '\t', '\r', '\n', '@'],
      c.toNat < 128 ∧ c.isAlpha = false := by
    simp
  intro c hc
  by_contra hnot
  have hmark : c ∈ ['/', '?', '#', '\t', '\r', '\n', '@'] := by
    simp only [netlocDelimiter, unsafeUrlByte, Bool.or_eq_false_iff, beq_eq_false_iff_ne] at hnot
    simp only [List.mem_cons, List.not_mem_nil, or_false]
    grind
  obtain ⟨hnetloc, huser⟩ :=
    mem_hostinfo
      ((mem_hostname_iff laws hhost (hascii c hmark).1 (hascii c hmark).2).1 hc)
  exact hnot ⟨(hsplit.netloc c hnetloc).1, (hsplit.netloc c hnetloc).2, huser⟩

omit [Runtime] in
lemma portSuffix_plain : ∀ c ∈ (portSuffix port).toList, c = ':' ∨ c.isDigit = true := by
  cases port with
  | none => simp [portSuffix]
  | some p =>
    rw [portSuffix_toList]
    intro c hc
    rcases List.mem_cons.1 hc with rfl | hc
    · exact .inl rfl
    · exact .inr (isDigit_of_mem_natRepr hc)

/-- A canonical URL has the parts that it is put together from. -/
lemma Canonical.parts (laws : UnicodeLaws) (hsplit : Split parsed)
    (h : Canonical parsed host port result) :
    Parts parsed.scheme (host ++ portSuffix port).toList parsed.path.toList := by
  constructor
  · exact h.web
  · rcases hsplit.scheme with hempty | ⟨s, hs⟩
    · have hweb := h.web
      rw [hempty] at hweb
      simp at hweb
    · rw [hs, laws.lower_lower]
  · intro c hc
    rw [String.toList_append, List.mem_append] at hc
    rcases hc with hc | hc
    · obtain ⟨hdelimiter, hunsafe, -⟩ := hostname_plain laws hsplit h.named c hc
      exact ⟨hdelimiter, hunsafe⟩
    · have hall : ∀ c ∈ ['/', '?', '#', '\t', '\r', '\n'], c ≠ ':' ∧ c.isDigit = false := by
        simp
      by_contra hnot
      have hmark : c ∈ ['/', '?', '#', '\t', '\r', '\n'] := by
        simp only [netlocDelimiter, unsafeUrlByte, Bool.or_eq_false_iff,
          beq_eq_false_iff_ne] at hnot
        simp only [List.mem_cons, List.not_mem_nil, or_false]
        grind
      rcases portSuffix_plain c hc with hcolon | hdigit
      · exact (hall c hmark).1 hcolon
      · rw [(hall c hmark).2] at hdigit
        cases hdigit
  · exact hsplit.path
  · rcases hsplit.rooted with hempty | hpath | hrooted
    · -- Without an authority there is no host.
      have hhost := (hostname_eq_some h.named).1
      obtain ⟨c, hc⟩ := List.exists_mem_of_ne_nil _ hhost
      have hmem := (mem_hostinfo hc).1
      rw [hempty] at hmem
      cases hmem
    · left
      rw [hpath]
      rfl
    · exact .inr hrooted

lemma Canonical.urlsplit (laws : UnicodeLaws) (hsplit : Split parsed)
    (h : Canonical parsed host port result) :
    urlsplit result = splitTail parsed.scheme (host ++ portSuffix port).toList
      parsed.path.toList := by
  rw [← urlsplit_built (h.parts laws hsplit), String.ofList_toList, String.ofList_toList, h.text]

/-- The host is read outside of brackets, and needs none. -/
def Unbracketed (host : String) : Prop := ∀ c ∈ [':', '[', ']'], c ∉ host.toList

lemma Canonical.allowed (laws : UnicodeLaws) (hsplit : Split parsed)
    (h : Canonical parsed host port result) (hplain : Unbracketed host) :
    netlocAllowed (host ++ portSuffix port).toList = true := by
  have hparts := h.parts laws hsplit
  rw [netlocAllowed_iff laws fun c hc => (hparts.authority c hc).1]
  intro c hc
  rw [String.toList_append, List.mem_append] at hc
  rcases hc with hc | hc
  · refine .inr (.inr (hostname_innocuous laws h.named (fun c hc => ?_) c hc))
    obtain ⟨hnetloc, huser⟩ := mem_hostinfo hc
    have hallowed := (netlocAllowed_iff laws fun c hc => (hsplit.netloc c hc).1).1
      hsplit.allowed c hnetloc
    rcases hallowed with hat | hcolon | hinnocuous
    · exact absurd hat huser
    · rw [hcolon, ← mem_hostname_iff laws h.named (by decide) (by decide)] at hc
      exact absurd hc (hplain ':' (by decide))
    · exact hinnocuous
  · rcases portSuffix_plain c hc with hcolon | hdigit
    · exact .inr (.inl hcolon)
    · have hmarks : ∀ d ∈ hostDelimiters, d.isDigit = false := by simp [hostDelimiters]
      refine .inr (.inr (innocuous_ascii laws ?_ fun hmark => ?_))
      · simp only [Char.isDigit, Bool.and_eq_true, decide_eq_true_eq, UInt32.le_iff_toNat_le,
          ge_iff_le] at hdigit
        have hnat : c.toNat = c.val.toNat := rfl
        have hnine : '9'.val.toNat = 57 := rfl
        omega
      · rw [hmarks c hmark] at hdigit
        cases hdigit

/-- A canonical URL whose host needs no brackets is split into what it was put together from. -/
lemma Canonical.again (laws : UnicodeLaws) (hsplit : Split parsed)
    (h : Canonical parsed host port result) (hplain : Unbracketed host) :
    DeploymentLab.urlsplit result =
      .ok ⟨parsed.scheme, host ++ portSuffix port, parsed.path, "", ""⟩ := by
  have hbracket : ∀ c ∈ ['[', ']'], c ∉ (host ++ portSuffix port).toList := by
    intro c hc hmem
    rw [String.toList_append, List.mem_append] at hmem
    rcases hmem with hmem | hmem
    · exact hplain c (List.mem_cons_of_mem _ hc) hmem
    · have hall : ∀ c ∈ ['[', ']'], c ≠ ':' ∧ c.isDigit = false := by simp
      rcases portSuffix_plain c hmem with hcolon | hdigit
      · exact (hall c hc).1 hcolon
      · rw [(hall c hc).2] at hdigit
        cases hdigit
  have hopen : (host ++ portSuffix port).toList.contains '[' = false := by
    simpa using hbracket '[' (by decide)
  have hclose : (host ++ portSuffix port).toList.contains ']' = false := by
    simpa using hbracket ']' (by decide)
  obtain ⟨hfragment, hquery⟩ := partitionAt_path (h.parts laws hsplit)
  rw [h.urlsplit laws hsplit]
  unfold splitTail
  rw [hopen, hclose, h.allowed laws hsplit hplain, hfragment]
  dsimp only
  rw [hquery, String.ofList_toList, String.ofList_toList]
  rfl

/-- The URL that is made of the parts read is split into them again, up to user, query and
fragment, and is left as it is. -/
structure LosesOnlySecrets (parsed : SplitResult) (result : String) : Prop where
  kept : ∃ again, DeploymentLab.urlsplit result = .ok again ∧ '@' ∉ again.netloc.toList ∧
    again.query = "" ∧ again.fragment = "" ∧ again.scheme = parsed.scheme ∧
      again.hostname = parsed.hostname ∧ again.port = parsed.port ∧ again.path = parsed.path
  stable : canonicalSourceUrl result = .ok result

lemma Canonical.losesOnlySecrets (laws : UnicodeLaws) (hsplit : Split parsed)
    (h : Canonical parsed host port result) (hplain : Unbracketed host) :
    LosesOnlySecrets parsed result := by
  have hagain := h.again laws hsplit hplain
  have huser : '@' ∉ host.toList :=
    fun hmem => (hostname_plain laws hsplit h.named _ hmem).2.2 rfl
  have hle : ∀ p ∈ port, p ≤ 65535 := by
    intro p hp
    have hport : parsed.port = .ok (some p) := by rw [h.numbered, hp]
    exact port_le hport
  generalize hparts : SplitResult.mk parsed.scheme (host ++ portSuffix port) parsed.path "" "" =
    again at hagain
  have hnetloc : again.netloc.toList = host.toList ++ (portSuffix port).toList := by
    rw [← hparts]
    exact String.toList_append
  have hinfo := hostinfo_again hnetloc ⟨huser, hplain '[' (by decide), hplain ':' (by decide)⟩
  have hhost := hostname_again laws h.named (congrArg Prod.fst hinfo)
  have hport := port_again hle (congrArg Prod.snd hinfo)
  constructor
  · refine ⟨again, hagain, ?_, ?_, ?_, ?_, hhost.trans h.named.symm,
      hport.trans h.numbered.symm, ?_⟩
    · rw [hnetloc, List.mem_append, not_or]
      refine ⟨huser, fun hmem => ?_⟩
      rcases portSuffix_plain _ hmem with hcolon | hdigit
      · revert hcolon
        decide
      · revert hdigit
        decide
    all_goals rw [← hparts]
  · rw [canonicalSourceUrl_iff hagain]
    refine ⟨host, port, hhost, ?_, hport, ?_⟩
    · rw [← hparts]
      exact h.web
    · rw [← hparts]
      exact h.text

/-- A host that needed brackets is lost without them. -/
lemma Canonical.unbracketed (laws : UnicodeLaws) (hsplit : Split parsed)
    (h : Canonical parsed host port result) (hkept : LosesOnlySecrets parsed result) :
    Unbracketed host := by
  obtain ⟨again, hagain, -, -, -, -, hhost, -, -⟩ := hkept.kept
  rw [h.urlsplit laws hsplit] at hagain
  unfold splitTail at hagain
  split at hagain
  · cases hagain
  rename_i hboth
  split at hagain
  · cases hagain
  split at hagain
  · cases hagain
  have hnetloc : again.netloc.toList = (host ++ portSuffix port).toList := by
    rw [← Except.ok.inj hagain]
    exact String.toList_ofList
  have hbracket : ∀ c ∈ ['[', ']'], c ∈ (host ++ portSuffix port).toList ↔ c ∈ host.toList := by
    intro c hc
    have hall : ∀ c ∈ ['[', ']'], c ≠ ':' ∧ c.isDigit = false := by simp
    rw [String.toList_append, List.mem_append, or_iff_left]
    intro hmem
    rcases portSuffix_plain c hmem with hcolon | hdigit
    · exact (hall c hc).1 hcolon
    · rw [(hall c hc).2] at hdigit
      cases hdigit
  have hiff : '[' ∈ host.toList ↔ ']' ∈ host.toList := by
    rw [← hbracket '[' (by decide), ← hbracket ']' (by decide)]
    rw [bne_iff_ne, ne_eq, not_not, Bool.eq_iff_iff, List.contains_iff_mem,
      List.contains_iff_mem] at hboth
    exact hboth
  have hnone : '[' ∉ host.toList ∧ ']' ∉ host.toList := by
    have hone : '[' ∉ parsed.hostinfo.1 ∨ ']' ∉ parsed.hostinfo.1 := hostinfo_brackets
    rw [← mem_hostname_iff laws h.named (by decide) (by decide),
      ← mem_hostname_iff laws h.named (by decide) (by decide)] at hone
    tauto
  have hopen : '[' ∉ again.netloc.toList := by
    rw [hnetloc, hbracket '[' (by decide)]
    exact hnone.1
  have hcolon : ':' ∉ host.toList := by
    rw [mem_hostname_iff laws (hhost.trans h.named) (by decide) (by decide)]
    exact colon_notMem_hostinfo hopen
  intro c hc
  simp only [List.mem_cons, List.not_mem_nil, or_false] at hc
  rcases hc with rfl | rfl | rfl
  · exact hcolon
  · exact hnone.1
  · exact hnone.2

end Canonical

/-- The canonical form of a URL is stable and loses only its user, its query and its fragment if
and only if the host is read without brackets. -/
theorem canonical_stable_iff (laws : UnicodeLaws) (value result : String) (parsed : SplitResult)
    (hparsed : urlsplit value = .ok parsed) (hresult : canonicalSourceUrl value = .ok result) :
    LosesOnlySecrets parsed result ↔ ∀ host ∈ parsed.hostname, Unbracketed host := by
  have hsplit := urlsplit_split hparsed
  obtain ⟨host, port, hcanonical⟩ := (canonicalSourceUrl_iff hparsed).1 hresult
  rw [hcanonical.named]
  constructor
  · rintro hkept host' hhost'
    obtain rfl := Option.some.inj hhost'
    exact hcanonical.unbracketed laws hsplit hkept
  · intro hplain
    exact hcanonical.losesOnlySecrets laws hsplit (hplain host rfl)

end Urls

/-- The laws hold of a host that knows ASCII only. -/
lemma unicodeLaws_ascii [Runtime]
    (hlower : ∀ s, Runtime.lower s = String.ofList (s.toList.map Char.toLower))
    (hnfkc : ∀ s, Runtime.nfkc s = s) : UnicodeLaws := by
  have hmem : ∀ s, ∀ c : Char, c.isAlpha = false →
      (c ∈ (Runtime.lower s).toList ↔ c ∈ s.toList) := by
    intro s c hletter
    rw [hlower, String.toList_ofList, List.mem_map]
    constructor
    · rintro ⟨d, hd, rfl⟩
      rw [Char.isAlpha_toLower_eq_isAlpha, Char.isAlpha, Bool.or_eq_false_iff] at hletter
      rw [Char.toLower_eq_of_not_isUpper (by simp [hletter.1])]
      exact hd
    · intro hc
      rw [Char.isAlpha, Bool.or_eq_false_iff] at hletter
      exact ⟨c, hc, Char.toLower_eq_of_not_isUpper (by simp [hletter.1])⟩
  constructor
  · intro s
    rw [hlower, hlower, String.toList_ofList, List.map_map]
    congr 2
    funext c
    exact Char.toLower_toLower_eq_toLower c
  · intro s hne hempty
    rw [hlower] at hempty
    apply hne
    apply String.toList_inj.1
    simpa using congrArg String.toList hempty
  · intro s c _ hletter
    exact hmem s c hletter
  · intro c _
    exact hnfkc _
  · intro c _ s
    simp [hnfkc]
  · intro c hc s d hd hnormal
    have hletters : ∀ c ∈ hostDelimiters, c.isAlpha = false := by simp [hostDelimiters]
    rw [hnfkc, String.toList_singleton, List.mem_singleton] at hnormal
    rw [← hnormal, hmem s c (hletters c hc)] at hd
    exact ⟨c, hd, by rw [hnfkc]; simp⟩

namespace Sample

/-- A host that knows ASCII and one address. -/
@[reducible] def loopbackHost : Runtime :=
  { asciiHost with ipv6Address := fun s => s == "::1" }

end Sample

open Sample in
attribute [local instance] Sample.loopbackHost in
/-- A host by its name keeps what a source URL says of it. -/
theorem canonical_stable_iff_named :
    LosesOnlySecrets ⟨"https", "u:p@Jira.example:443", "/browse/A-1", "x=1", "c"⟩
      "https://jira.example:443/browse/A-1" := by
  have hparsed : urlsplit "https://u:p@Jira.example:443/browse/A-1?x=1#c" =
      .ok ⟨"https", "u:p@Jira.example:443", "/browse/A-1", "x=1", "c"⟩ := by
    decide +kernel
  have hresult : canonicalSourceUrl "https://u:p@Jira.example:443/browse/A-1?x=1#c" =
      .ok "https://jira.example:443/browse/A-1" := by
    decide +kernel
  have hhost : (⟨"https", "u:p@Jira.example:443", "/browse/A-1", "x=1", "c"⟩ :
      SplitResult).hostname = some "jira.example" := by
    decide +kernel
  rw [canonical_stable_iff (unicodeLaws_ascii (fun _ => rfl) fun _ => rfl) _ _ _ hparsed hresult,
    hhost]
  rintro host hsome
  obtain rfl := Option.some.inj hsome
  unfold Unbracketed
  simp

open Sample in
attribute [local instance] Sample.loopbackHost in
/-- The canonical form of the URL of a host by its address is not a URL of that host. -/
theorem canonical_unstable_address : ¬(UnicodeLaws → ∀ value result parsed,
    urlsplit value = .ok parsed → canonicalSourceUrl value = .ok result →
      LosesOnlySecrets parsed result) := by
  intro h
  have hlaws : UnicodeLaws := unicodeLaws_ascii (fun _ => rfl) fun _ => rfl
  have hparsed : urlsplit "http://[::1]:8080/x" =
      .ok ⟨"http", "[::1]:8080", "/x", "", ""⟩ := by
    decide +kernel
  have hresult : canonicalSourceUrl "http://[::1]:8080/x" = .ok "http://::1:8080/x" := by
    decide +kernel
  have hstable := (h hlaws _ _ _ hparsed hresult).stable
  revert hstable
  decide +kernel

end DeploymentLab
