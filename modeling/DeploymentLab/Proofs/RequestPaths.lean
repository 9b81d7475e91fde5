import DeploymentLab.Model.Requests

/-!
# Joining paths

What `urljoin` makes of a base path and a relative one, segment by segment: dot segments move up,
empty ones are dropped, and all others stay in their order.
-/

namespace DeploymentLab

/-- The path of some segments. -/
def pathOf (segments : List (List Char)) : List Char := segments.flatMap ('/' :: ·)

/-- The segments of a path that is empty or begins with a slash. -/
def segmentsOf (path : List Char) : List (List Char) := (path.splitOn '/').tail

section Segments

variable {segments resolved : List (List Char)} {path : List Char}

lemma splitOn_slash (path : List Char) : ('/' :: path).splitOn '/' = [] :: path.splitOn '/' := by
  rw [List.splitOn_cons_eq_if_modifyHead, if_pos (by decide)]

lemma slash_intercalate (h : segments ≠ []) :
    '/' :: List.intercalate ['/'] segments = pathOf segments := by
  induction segments with
  | nil => exact absurd rfl h
  | cons segment segments ih =>
    cases segments with
    | nil => simp [pathOf]
    | cons next segments =>
      rw [List.intercalate_cons_cons, List.append_assoc, List.singleton_append,
        ih (List.cons_ne_nil _ _)]
      rfl

lemma pathOf_append (first second : List (List Char)) :
    pathOf (first ++ second) = pathOf first ++ pathOf second := List.flatMap_append

lemma pathOf_rooted (segments : List (List Char)) :
    pathOf segments = [] ∨ (pathOf segments).head? = some '/' := by
  cases segments with
  | nil => exact .inl rfl
  | cons segment segments => exact .inr rfl

/-- A path has the segments that it is put together from. -/
lemma splitOn_pathOf (h : ∀ segment ∈ segments, '/' ∉ segment) :
    (pathOf segments).splitOn '/' = [] :: segments := by
  by_cases hne : segments = []
  · rw [hne]
    rfl
  · rw [← slash_intercalate hne, splitOn_slash, List.splitOn_intercalate '/' h hne]

lemma segmentsOf_pathOf (h : ∀ segment ∈ segments, '/' ∉ segment) :
    segmentsOf (pathOf segments) = segments := by
  rw [segmentsOf, splitOn_pathOf h, List.tail_cons]

/-- A path that is empty or begins with a slash is put together from its segments. -/
lemma pathOf_segmentsOf (h : path = [] ∨ path.head? = some '/') :
    pathOf (segmentsOf path) = path := by
  cases path with
  | nil => rfl
  | cons c path =>
    obtain rfl : c = '/' := by simpa using h
    rw [segmentsOf, splitOn_slash, List.tail_cons,
      ← slash_intercalate (List.splitOn_ne_nil '/' path), List.intercalate_splitOn]

lemma slash_notMem_of_mem_splitOn {segment : List Char} (h : segment ∈ path.splitOn '/') :
    '/' ∉ segment := by
  induction path generalizing segment with
  | nil =>
    rw [List.splitOn_nil, List.mem_singleton] at h
    simp [h]
  | cons c path ih =>
    rw [List.splitOn_cons_eq_if_modifyHead] at h
    split at h
    · rcases List.mem_cons.1 h with rfl | h
      · simp
      · exact ih h
    · rename_i hc
      cases hsplit : path.splitOn '/' with
      | nil => exact absurd hsplit (List.splitOn_ne_nil _ _)
      | cons first rest =>
        rw [hsplit, List.modifyHead_cons, List.mem_cons] at h
        rcases h with rfl | h
        · rw [List.mem_cons, not_or]
          refine ⟨fun heq => hc (by rw [← heq]; rfl), ih ?_⟩
          rw [hsplit]
          exact List.mem_cons_self
        · exact ih (by rw [hsplit]; exact List.mem_cons_of_mem _ h)

lemma mem_pathOf {c : Char} : c ∈ pathOf segments → c = '/' ∨ ∃ s ∈ segments, c ∈ s := by
  intro h
  obtain ⟨s, hs, hc⟩ := List.mem_flatMap.1 h
  exact (List.mem_cons.1 hc).imp_right fun hc => ⟨s, hs, hc⟩

lemma mem_of_mem_splitOn {s : List Char} (h : s ∈ path.splitOn '/') : ∀ c ∈ s, c ∈ path := by
  intro c hc
  have hmem : c ∈ pathOf (path.splitOn '/') :=
    List.mem_flatMap.2 ⟨s, h, List.mem_cons_of_mem _ hc⟩
  rw [← slash_intercalate (List.splitOn_ne_nil '/' path), List.intercalate_splitOn] at hmem
  rcases List.mem_cons.1 hmem with rfl | hmem
  · exact absurd hc (slash_notMem_of_mem_splitOn h)
  · exact hmem

lemma segmentsOf_append {suffix : List Char} (h : suffix = [] ∨ suffix.head? = some '/') :
    segmentsOf (path ++ suffix) = segmentsOf path ++ segmentsOf suffix := by
  cases suffix with
  | nil => simp [segmentsOf]
  | cons c suffix =>
    obtain rfl : c = '/' := by simpa using h
    rw [segmentsOf, segmentsOf, segmentsOf, List.splitOn_append_cons_self, splitOn_slash,
      List.tail_cons, List.tail_append_of_ne_nil (List.splitOn_ne_nil _ _)]

/-! ## Dot segments -/

lemma resolveSegment_up : resolveSegment resolved ['.', '.'] = resolved.dropLast := rfl

lemma resolveSegment_here : resolveSegment resolved ['.'] = resolved := rfl

lemma resolveSegment_of_notDot {segment : List Char} (h : isDotSegment segment = false) :
    resolveSegment resolved segment = resolved ++ [segment] := by
  simp only [isDotSegment, Bool.or_eq_false_iff, beq_eq_false_iff_ne] at h
  rw [resolveSegment, if_neg h.2, if_neg h.1]

lemma foldl_resolveSegment (h : ∀ segment ∈ segments, isDotSegment segment = false) :
    segments.foldl resolveSegment resolved = resolved ++ segments := by
  induction segments generalizing resolved with
  | nil => simp
  | cons segment segments ih =>
    rw [List.foldl_cons, resolveSegment_of_notDot (h segment List.mem_cons_self),
      ih fun s hs => h s (List.mem_cons_of_mem _ hs), List.append_assoc, List.singleton_append]

lemma mem_foldl_resolveSegment {s : List Char} (h : s ∈ segments.foldl resolveSegment resolved) :
    s ∈ resolved ∨ s ∈ segments ∧ isDotSegment s = false := by
  induction segments using List.reverseRecOn with
  | nil => exact .inl h
  | append_singleton segments segment ih =>
    have hbefore : s ∈ segments.foldl resolveSegment resolved →
        s ∈ resolved ∨ s ∈ segments ++ [segment] ∧ isDotSegment s = false := fun hs =>
      (ih hs).imp_right fun hs => ⟨List.mem_append_left _ hs.1, hs.2⟩
    rw [List.foldl_append, List.foldl_cons, List.foldl_nil] at h
    by_cases hdot : isDotSegment segment = true
    · rw [isDotSegment, Bool.or_eq_true, beq_iff_eq, beq_iff_eq] at hdot
      rcases hdot with rfl | rfl
      · exact hbefore h
      · exact hbefore (List.mem_of_mem_dropLast h)
    · rw [Bool.not_eq_true] at hdot
      rw [resolveSegment_of_notDot hdot] at h
      rcases List.mem_append.1 h with hs | hs
      · exact hbefore hs
      · obtain rfl := List.mem_singleton.1 hs
        exact .inr ⟨List.mem_append_right _ hs, hdot⟩

/-- Segments are only ever taken away: what is left on the stack are some of the segments that are
no dots, on top of the root or of nothing. -/
lemma foldl_resolveSegment_root (base : List (List Char)) :
    ∃ left, (∀ s ∈ left, s ∈ base ∧ isDotSegment s = false) ∧ left.length ≤ base.length ∧
      (base.foldl resolveSegment [[]] = [] :: left ∨ base.foldl resolveSegment [[]] = left) := by
  induction base using List.reverseRecOn with
  | nil => exact ⟨[], by simp, le_rfl, .inl rfl⟩
  | append_singleton base segment ih =>
    obtain ⟨left, hmem, hlength, hleft⟩ := ih
    have hmem' : ∀ s ∈ left, s ∈ base ++ [segment] ∧ isDotSegment s = false :=
      fun s hs => ⟨List.mem_append_left _ (hmem s hs).1, (hmem s hs).2⟩
    rw [List.foldl_append, List.foldl_cons, List.foldl_nil, List.length_append,
      List.length_singleton]
    by_cases hup : segment = ['.', '.']
    · rw [hup, resolveSegment_up]
      refine ⟨left.dropLast, fun s hs => ?_, by rw [List.length_dropLast]; omega, ?_⟩
      · exact hup ▸ hmem' s (List.mem_of_mem_dropLast hs)
      · rcases hleft with hleft | hleft
        · rw [hleft]
          cases left with
          | nil => exact .inr rfl
          | cons s left => exact .inl rfl
        · rw [hleft]
          exact .inr rfl
    by_cases hhere : segment = ['.']
    · rw [hhere, resolveSegment_here]
      exact ⟨left, fun s hs => hhere ▸ hmem' s hs, by omega, hleft⟩
    · have hdot : isDotSegment segment = false := by simp [isDotSegment, hup, hhere]
      rw [resolveSegment_of_notDot hdot]
      refine ⟨left ++ [segment], fun s hs => ?_, by simpa using hlength, ?_⟩
      · rcases List.mem_append.1 hs with hs | hs
        · exact hmem' s hs
        · obtain rfl := List.mem_singleton.1 hs
          exact ⟨List.mem_append_right _ hs, hdot⟩
      · rcases hleft with hleft | hleft
        · rw [hleft]
          exact .inl rfl
        · rw [hleft]
          exact .inr rfl

end Segments

/-- A segment that joining neither drops nor resolves. -/
def Ordinary (segment : List Char) : Prop := segment ≠ [] ∧ isDotSegment segment = false

/-- Of the segments behind `front` only the last one may be dots or empty, and never the first. -/
structure StaysBelow (front behind : List (List Char)) : Prop where
  slashes : ∀ s ∈ front ++ behind, '/' ∉ s
  nonempty : front ≠ []
  front : ∀ s ∈ front, Ordinary s
  behind : behind = [] ∨ ∃ middle last, behind = middle ++ [last] ∧ middle ≠ [] ∧
    ∀ s ∈ middle, Ordinary s

/-- The segments as `joinPath` resolves them, with the slash that it puts behind dots. -/
def resolve (segments : List (List Char)) : List (List Char) :=
  if segments.getLast?.any isDotSegment then segments.foldl resolveSegment [] ++ [[]]
  else segments.foldl resolveSegment []

section Below

variable {front behind base : List (List Char)} {bpath : List Char}

/-- What stays below some segments is resolved below them. -/
lemma resolve_below (base : List (List Char)) (h : StaysBelow front behind) :
    ∃ left, (∀ s ∈ left, '/' ∉ s) ∧ (behind = [] → left = []) ∧
      resolve (base ++ (front ++ behind)) = base.foldl resolveSegment [] ++ front ++ left := by
  have hfront : ∀ s ∈ front, isDotSegment s = false := fun s hs => (h.front s hs).2
  rcases h.behind with rfl | ⟨middle, last, rfl, hne, hmiddle⟩
  · refine ⟨[], by simp, fun _ => rfl, ?_⟩
    have hlast : (base ++ (front ++ [])).getLast?.any isDotSegment = false := by
      rw [List.append_nil, List.getLast?_append_of_ne_nil _ h.nonempty,
        List.getLast?_eq_some_getLast h.nonempty, Option.any_some]
      exact hfront _ (List.getLast_mem h.nonempty)
    rw [resolve, hlast, List.append_nil, List.foldl_append, foldl_resolveSegment hfront]
    simp
  · have hbehind : middle ++ [last] ≠ [] := List.concat_ne_nil _ _
    have hslash : ∀ s ∈ middle ++ [last], '/' ∉ s :=
      fun s hs => h.slashes s (List.mem_append_right _ hs)
    have hlast : (base ++ (front ++ (middle ++ [last]))).getLast? = some last := by
      rw [← List.append_assoc, ← List.append_assoc, List.getLast?_concat]
    have hfold : (base ++ (front ++ (middle ++ [last]))).foldl resolveSegment [] =
        resolveSegment (base.foldl resolveSegment [] ++ front ++ middle) last := by
      rw [List.foldl_append, List.foldl_append, foldl_resolveSegment hfront, List.foldl_append,
        foldl_resolveSegment fun s hs => (hmiddle s hs).2]
      rfl
    rw [resolve, hlast, hfold, Option.any_some]
    by_cases hup : last = ['.', '.']
    · refine ⟨middle.dropLast ++ [[]], fun s hs => ?_, fun hnil => absurd hnil hbehind, ?_⟩
      · rcases List.mem_append.1 hs with hs | hs
        · exact hslash s (List.mem_append_left _ (List.mem_of_mem_dropLast hs))
        · obtain rfl := List.mem_singleton.1 hs
          simp
      · rw [hup, resolveSegment_up, List.dropLast_append_of_ne_nil hne]
        simp [isDotSegment]
    by_cases hhere : last = ['.']
    · refine ⟨middle ++ [[]], fun s hs => ?_, fun hnil => absurd hnil hbehind, ?_⟩
      · rcases List.mem_append.1 hs with hs | hs
        · exact hslash s (List.mem_append_left _ hs)
        · obtain rfl := List.mem_singleton.1 hs
          simp
      · rw [hhere, resolveSegment_here]
        simp [isDotSegment]
    · have hdot : isDotSegment last = false := by simp [isDotSegment, hup, hhere]
      refine ⟨middle ++ [last], hslash, fun hnil => absurd hnil hbehind, ?_⟩
      rw [hdot, resolveSegment_of_notDot hdot]
      simp

lemma withoutRedundantSlashes_append {segments : List (List Char)} (hne : segments ≠ [])
    (h : ∀ s ∈ segments.dropLast, s ≠ []) :
    withoutRedundantSlashes ([] :: base ++ segments) =
      [] :: base.filter (· ≠ []) ++ segments := by
  obtain ⟨second, rest, hsecond⟩ : ∃ second rest, base ++ segments = second :: rest :=
    List.exists_cons_of_ne_nil (List.append_ne_nil_of_right_ne_nil _ hne)
  rw [List.cons_append, hsecond, withoutRedundantSlashes, ← hsecond,
    List.dropLast_append_of_ne_nil hne, List.filter_append,
    List.getLast?_append_of_ne_nil _ hne, List.getLast?_eq_some_getLast hne]
  have hinit : segments.dropLast.filter (· ≠ []) = segments.dropLast := by
    rw [List.filter_eq_self]
    simpa using h
  rw [hinit, Option.toList_some, List.append_assoc, List.dropLast_concat_getLast hne]
  rfl

/-- The directories of the base path. -/
def directories (bpath : List Char) : List (List Char) :=
  (baseParts bpath).tail.filter (· ≠ [])

lemma mem_splitOn_of_mem_baseParts {s : List Char} (h : s ∈ baseParts bpath) :
    s ∈ bpath.splitOn '/' := by
  unfold baseParts at h
  split at h
  · exact h
  · exact List.mem_of_mem_dropLast h

lemma baseParts_rooted (h : bpath = [] ∨ bpath.head? = some '/') :
    baseParts bpath = [] :: (baseParts bpath).tail := by
  cases bpath with
  | nil => rfl
  | cons c bpath =>
    obtain rfl : c = '/' := by simpa using h
    have hne := List.splitOn_ne_nil '/' bpath
    rw [baseParts, splitOn_slash]
    split
    · rfl
    · rw [List.dropLast_cons_of_ne_nil hne]
      rfl

/-- All segments of a base path that ends in a slash are directories. -/
lemma directories_of_slash {path : List Char} {k : ℕ}
    (h : k ≠ 0 ∨ path = []) (hpath : path = [] ∨ path.head? = some '/') :
    directories (path ++ List.replicate k '/') = (segmentsOf path).filter (· ≠ []) := by
  have hslashes : ∀ n, (List.replicate n '/').splitOn '/' = List.replicate (n + 1) [] := by
    intro n
    induction n with
    | zero => rfl
    | succ n ih => rw [List.replicate_succ, splitOn_slash, ih, ← List.replicate_succ]
  cases k with
  | zero =>
    obtain rfl := h.resolve_left (fun hk => hk rfl)
    rfl
  | succ k =>
    have hsplit : (path ++ List.replicate (k + 1) '/').splitOn '/' =
        path.splitOn '/' ++ List.replicate (k + 1) [] := by
      rw [List.replicate_succ, List.splitOn_append_cons_self, hslashes]
    have hlast : ((path ++ List.replicate (k + 1) '/').splitOn '/').getLast? = some [] := by
      rw [hsplit, List.replicate_succ', ← List.append_assoc, List.getLast?_concat]
    have hempty : (List.replicate (k + 1) ([] : List Char)).filter (· ≠ []) = [] := by
      rw [List.filter_eq_nil_iff]
      intro s hs
      simp [List.eq_of_mem_replicate hs]
    rw [directories, baseParts, if_pos hlast, hsplit,
      List.tail_append_of_ne_nil (List.splitOn_ne_nil _ _), List.filter_append, hempty,
      List.append_nil]
    rfl

lemma afterLast_append {front last : List Char} (h : '/' ∉ last) :
    afterLast '/' (front ++ '/' :: last) = last := by
  have hlast : ∀ c ∈ last.reverse, decide (c ≠ '/') = true := by
    intro c hc
    refine decide_eq_true fun heq => h ?_
    rw [← heq]
    exact List.mem_reverse.1 hc
  rw [afterLast, List.reverse_append, List.reverse_cons, List.append_assoc,
    List.takeWhile_append_of_pos hlast, List.singleton_append, List.takeWhile_cons_of_neg (by simp),
    List.append_nil, List.reverse_reverse]

lemma splitParams_slash (front : List Char) :
    (splitParams (front ++ ['/'])).1 = front ++ ['/'] := by
  have hlast : afterLast '/' (front ++ ['/']) = [] := afterLast_append List.not_mem_nil
  rw [splitParams, hlast]
  simp [partitionAt]

lemma directories_append {front last : List Char} (h : '/' ∉ last) :
    directories (front ++ '/' :: last) = (front.splitOn '/').tail.filter (· ≠ []) := by
  have hsplit : (front ++ '/' :: last).splitOn '/' = front.splitOn '/' ++ [last] := by
    rw [List.splitOn_append_cons_self, List.splitOn_eq_singleton h]
  rw [directories, baseParts, hsplit, List.getLast?_concat, List.dropLast_concat]
  split
  · rename_i hempty
    rw [Option.some.inj hempty, List.tail_append_of_ne_nil (List.splitOn_ne_nil _ _),
      List.filter_append]
    simp
  · rfl

/-- The parameters of a path are those of its last segment. -/
lemma splitParams_cases {path : List Char} (h : path.head? = some '/') :
    ∃ front last, '/' ∉ last ∧ path = front ++ '/' :: last ∧
      (splitParams path).1 = front ++ '/' :: (partitionAt ';' last).1 := by
  have hmem : '/' ∈ path.reverse := List.mem_reverse.2 (List.mem_of_mem_head? h)
  obtain ⟨last, front, hreverse, hslash⟩ := List.eq_append_cons_of_mem hmem
  have hpath : path = front.reverse ++ '/' :: last.reverse := by
    rw [← List.reverse_reverse path, hreverse]
    simp
  have hslash : '/' ∉ last.reverse := fun h => hslash (List.mem_reverse.1 h)
  refine ⟨front.reverse, last.reverse, hslash, hpath, ?_⟩
  have htake : (front.reverse ++ '/' :: last.reverse).take
      ((front.reverse ++ '/' :: last.reverse).length - last.reverse.length) =
        front.reverse ++ ['/'] := by
    rw [List.append_cons, List.length_append, Nat.add_sub_cancel, List.take_left]
  rw [hpath, splitParams, afterLast_append hslash]
  dsimp only
  rw [htake, List.append_assoc, List.singleton_append]

lemma splitParams_rooted {path : List Char} (h : path = [] ∨ path.head? = some '/') :
    (splitParams path).1 = [] ∨ (splitParams path).1.head? = some '/' := by
  rcases h with rfl | h
  · exact .inl rfl
  · obtain ⟨front, last, -, hpath, hparams⟩ := splitParams_cases h
    right
    rw [hparams, ← h, hpath, List.head?_append, List.head?_append]
    rfl

/-- The last segment of a base path is no directory, with or without its parameters. -/
lemma length_directories_lt {path : List Char} (hpath : path.head? = some '/') :
    (directories (splitParams path).1).length < (segmentsOf path).length := by
  obtain ⟨front, last, hslash, rfl, hparams⟩ := splitParams_cases hpath
  rw [hparams, directories_append fun h => hslash (mem_of_mem_partitionAt_fst h), segmentsOf,
    List.splitOn_append_cons_self, List.tail_append_of_ne_nil (List.splitOn_ne_nil _ _),
    List.length_append, List.splitOn_eq_singleton hslash, List.length_singleton]
  exact Nat.lt_succ_of_le (List.length_filter_le _ _)

/-- The slash that `urlunsplit` puts in front of a path behind a location. -/
def rooted (path : List Char) : List Char := if path.head? = some '/' then path else '/' :: path

lemma joinPath_eq (hbase : bpath = [] ∨ bpath.head? = some '/')
    {segments : List (List Char)} (hne : segments ≠ []) (hslash : ∀ s ∈ segments, '/' ∉ s)
    (hfirst : segments.head? ≠ some []) (hempty : ∀ s ∈ segments.dropLast, s ≠ []) :
    joinPath bpath (List.intercalate ['/'] segments) =
      match List.intercalate ['/'] (resolve ([] :: directories bpath ++ segments)) with
      | [] => ['/']
      | joined => joined := by
  have hrelative : (List.intercalate ['/'] segments).head? ≠ some '/' := by
    obtain ⟨first, rest, rfl⟩ := List.exists_cons_of_ne_nil hne
    cases first with
    | nil => exact absurd rfl hfirst
    | cons c first =>
      have hc : c ≠ '/' := by
        rintro rfl
        exact hslash _ List.mem_cons_self List.mem_cons_self
      cases rest with
      | nil => simpa using hc
      | cons next rest => simpa [List.intercalate_cons_cons] using hc
  unfold joinPath
  rw [if_neg hrelative, List.splitOn_intercalate '/' hslash hne, baseParts_rooted hbase,
    withoutRedundantSlashes_append hne hempty]
  rfl

lemma mem_directories {s : List Char} (h : s ∈ directories bpath) : '/' ∉ s ∧ s ≠ [] := by
  have hmem := List.mem_filter.1 h
  refine ⟨?_, by simpa using hmem.2⟩
  exact slash_notMem_of_mem_splitOn (mem_splitOn_of_mem_baseParts (List.mem_of_mem_tail hmem.1))

/-- The text of what is resolved, with or without the root in front. -/
lemma rooted_intercalate {segments resolved : List (List Char)}
    (hfirst : ∃ c first rest, segments = (c :: first) :: rest ∧ c ≠ '/')
    (hresolved : resolved = [] :: segments ∨ resolved = segments) :
    rooted (match List.intercalate ['/'] resolved with
      | [] => ['/']
      | joined => joined) = pathOf segments := by
  obtain ⟨c, first, rest, rfl, hc⟩ := hfirst
  rw [← slash_intercalate (List.cons_ne_nil _ _)]
  rcases hresolved with rfl | rfl
  · rw [List.intercalate_cons_cons]
    rfl
  · obtain ⟨tail, htail⟩ : ∃ tail, List.intercalate ['/'] ((c :: first) :: rest) = c :: tail := by
      cases rest with
      | nil => exact ⟨first, by simp⟩
      | cons next rest => exact ⟨_, by rw [List.intercalate_cons_cons]; rfl⟩
    rw [htail]
    exact if_neg (by simpa using hc)

/-- The path of a request that stays below `front`: its own segments stand behind what is left of
the base path. -/
lemma joinPath_below (hbase : bpath = [] ∨ bpath.head? = some '/')
    (h : StaysBelow front behind) :
    ∃ left rest, (∀ s ∈ left, s ∈ directories bpath ∧ isDotSegment s = false) ∧
      left.length ≤ (directories bpath).length ∧ (∀ s ∈ rest, '/' ∉ s) ∧
      (behind = [] → rest = []) ∧
      ((∀ s ∈ directories bpath, isDotSegment s = false) → left = directories bpath) ∧
      rooted (joinPath bpath (List.intercalate ['/'] (front ++ behind))) =
        pathOf (left ++ front ++ rest) := by
  have hstack : ([] :: directories bpath).foldl resolveSegment [] =
      (directories bpath).foldl resolveSegment [[]] := rfl
  obtain ⟨rest, hrest, hnone, hresolve⟩ := resolve_below ([] :: directories bpath) h
  obtain ⟨left, hleft, hlength, hroot, hall⟩ : ∃ left,
      (∀ s ∈ left, s ∈ directories bpath ∧ isDotSegment s = false) ∧
        left.length ≤ (directories bpath).length ∧
        ((directories bpath).foldl resolveSegment [[]] = [] :: left ∨
          (directories bpath).foldl resolveSegment [[]] = left) ∧
        ((∀ s ∈ directories bpath, isDotSegment s = false) → left = directories bpath) := by
    by_cases hdots : ∀ s ∈ directories bpath, isDotSegment s = false
    · exact ⟨_, fun s hs => ⟨hs, hdots s hs⟩, le_rfl, .inl (foldl_resolveSegment hdots),
        fun _ => rfl⟩
    · obtain ⟨left, hleft, hlength, hroot⟩ := foldl_resolveSegment_root (directories bpath)
      exact ⟨left, hleft, hlength, hroot, fun h => absurd h hdots⟩
  refine ⟨left, rest, hleft, hlength, hrest, hnone, hall, ?_⟩
  have hne : front ++ behind ≠ [] := List.append_ne_nil_of_left_ne_nil h.nonempty _
  have hfirst : (front ++ behind).head? ≠ some [] := by
    obtain ⟨first, others, hfront⟩ := List.exists_cons_of_ne_nil h.nonempty
    have hordinary := h.front first (by rw [hfront]; exact List.mem_cons_self)
    rw [hfront]
    simpa using hordinary.1
  have hempty : ∀ s ∈ (front ++ behind).dropLast, s ≠ [] := by
    intro s hs
    rcases h.behind with rfl | ⟨middle, last, rfl, -, hmiddle⟩
    · rw [List.append_nil] at hs
      exact (h.front s (List.mem_of_mem_dropLast hs)).1
    · rw [← List.append_assoc, List.dropLast_concat] at hs
      rcases List.mem_append.1 hs with hs | hs
      · exact (h.front s hs).1
      · exact (hmiddle s hs).1
  have hslash : ∀ s ∈ left, '/' ∉ s ∧ s ≠ [] := fun s hs => mem_directories (hleft s hs).1
  rw [joinPath_eq hbase hne h.slashes hfirst hempty, hresolve, hstack]
  refine rooted_intercalate ?_ ?_
  · obtain ⟨first, others, hsegments⟩ := List.exists_cons_of_ne_nil
      (List.append_ne_nil_of_right_ne_nil left h.nonempty)
    have hproper : '/' ∉ first ∧ first ≠ [] := by
      have hmem : first ∈ left ++ front := by
        rw [hsegments]
        exact List.mem_cons_self
      rcases List.mem_append.1 hmem with hmem | hmem
      · exact hslash first hmem
      · exact ⟨h.slashes first (List.mem_append_left _ hmem), (h.front first hmem).1⟩
    rw [hsegments]
    cases first with
    | nil => exact absurd rfl hproper.2
    | cons c first =>
      refine ⟨c, first, others ++ rest, rfl, ?_⟩
      rintro rfl
      exact hproper.1 List.mem_cons_self
  · rcases hroot with hroot | hroot
    · rw [hroot]
      exact .inl rfl
    · rw [hroot]
      exact .inr rfl

lemma joinPath_segments (bpath path : List Char) :
    ∃ segments, (∀ s ∈ segments, '/' ∉ s ∧ ∀ c ∈ s, c ∈ bpath ∨ c ∈ path) ∧
      joinPath bpath path = match List.intercalate ['/'] (resolve segments) with
        | [] => ['/']
        | joined => joined := by
  unfold joinPath
  dsimp only
  refine ⟨_, fun s hs => ?_, rfl⟩
  have hpath : s ∈ path.splitOn '/' → '/' ∉ s ∧ ∀ c ∈ s, c ∈ bpath ∨ c ∈ path := fun hs =>
    ⟨slash_notMem_of_mem_splitOn hs, fun c hc => .inr (mem_of_mem_splitOn hs c hc)⟩
  split at hs
  · exact hpath hs
  · have hmem : s ∈ baseParts bpath ++ path.splitOn '/' := by
      unfold withoutRedundantSlashes at hs
      split at hs
      · rename_i first second others hparts
        rw [hparts]
        rcases List.mem_cons.1 hs with rfl | hs
        · exact List.mem_cons_self
        rcases List.mem_append.1 hs with hs | hs
        · exact List.mem_cons_of_mem _ (List.mem_of_mem_dropLast (List.mem_filter.1 hs).1)
        · exact List.mem_cons_of_mem _ (List.mem_of_getLast? (Option.mem_toList.1 hs))
      · exact hs
    rcases List.mem_append.1 hmem with hs | hs
    · have hs := mem_splitOn_of_mem_baseParts hs
      exact ⟨slash_notMem_of_mem_splitOn hs, fun c hc => .inl (mem_of_mem_splitOn hs c hc)⟩
    · exact hpath hs

lemma joinPath_ne_nil (bpath path : List Char) : joinPath bpath path ≠ [] := by
  obtain ⟨segments, -, hjoin⟩ := joinPath_segments bpath path
  rw [hjoin]
  cases List.intercalate ['/'] (resolve segments) with
  | nil => exact List.cons_ne_nil _ _
  | cons c joined => exact List.cons_ne_nil _ _

lemma mem_resolve {segments : List (List Char)} {s : List Char} (h : s ∈ resolve segments) :
    s = [] ∨ s ∈ segments ∧ isDotSegment s = false := by
  have hfold : s ∈ segments.foldl resolveSegment [] → s ∈ segments ∧ isDotSegment s = false :=
    fun hs => (mem_foldl_resolveSegment hs).resolve_left List.not_mem_nil
  unfold resolve at h
  split at h
  · rcases List.mem_append.1 h with hs | hs
    · exact .inr (hfold hs)
    · exact .inl (List.mem_singleton.1 hs)
  · exact .inr (hfold h)

/-- A joined path is made of the characters of what is joined. -/
lemma mem_joinPath {path : List Char} {c : Char} (h : c ∈ rooted (joinPath bpath path)) :
    c = '/' ∨ c ∈ bpath ∨ c ∈ path := by
  obtain ⟨segments, hsegments, hjoin⟩ := joinPath_segments bpath path
  have hmem : c = '/' ∨ c ∈ joinPath bpath path := by
    unfold rooted at h
    split at h
    · exact .inr h
    · exact List.mem_cons.1 h
  rcases hmem with rfl | hmem
  · exact .inl rfl
  rw [hjoin] at hmem
  cases hjoined : List.intercalate ['/'] (resolve segments) with
  | nil =>
    rw [hjoined] at hmem
    exact .inl (List.mem_singleton.1 hmem)
  | cons d joined =>
    have hne : resolve segments ≠ [] := by
      intro hnil
      rw [hnil] at hjoined
      cases hjoined
    have hpath : c ∈ pathOf (resolve segments) := by
      rw [← slash_intercalate hne, hjoined]
      rw [hjoined] at hmem
      exact List.mem_cons_of_mem _ hmem
    rcases mem_pathOf hpath with rfl | ⟨s, hs, hc⟩
    · exact .inl rfl
    · rcases mem_resolve hs with rfl | hs
      · cases hc
      · exact .inr ((hsegments s hs.1).2 c hc)

/-- The joined path has no dot segments, whatever is joined. -/
lemma joinPath_noDots (bpath path : List Char) :
    ∀ s ∈ (rooted (joinPath bpath path)).splitOn '/', isDotSegment s = false := by
  obtain ⟨segments, hslash, hjoin⟩ := joinPath_segments bpath path
  have hresolved : ∀ s ∈ resolve segments, '/' ∉ s ∧ isDotSegment s = false := by
    intro s hs
    rcases mem_resolve hs with rfl | hs
    · exact ⟨List.not_mem_nil, rfl⟩
    · exact ⟨(hslash s hs.1).1, hs.2⟩
  rw [hjoin]
  cases hjoined : List.intercalate ['/'] (resolve segments) with
  | nil => decide
  | cons c joined =>
    have hne : resolve segments ≠ [] := by
      intro hnil
      rw [hnil] at hjoined
      cases hjoined
    have hsplit : (c :: joined).splitOn '/' = resolve segments := by
      rw [← hjoined, List.splitOn_intercalate '/' (fun s hs => (hresolved s hs).1) hne]
    intro s hs
    dsimp only at hs
    unfold rooted at hs
    split at hs
    · rw [hsplit] at hs
      exact (hresolved s hs).2
    · rw [splitOn_slash, hsplit] at hs
      rcases List.mem_cons.1 hs with rfl | hs
      · rfl
      · exact (hresolved s hs).2

end Below

end DeploymentLab
