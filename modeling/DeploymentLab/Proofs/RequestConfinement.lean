import DeploymentLab.Proofs.CatalogPolicy
import DeploymentLab.Proofs.ScopeKeys
import DeploymentLab.Proofs.TrustedUrls

/-!
# The requests to GitHub stay under the repository

The pieces of a request's path are quoted, so that none of them holds a slash or ends the path. A
piece that is dots stays as it is, and only where such a piece, or a segment of the base path, is
resolved does a request leave the repository it is made for.
-/

namespace DeploymentLab

open Reading

/-- The characters of a quoted piece. -/
def pieceChar (c : Char) : Bool := unreserved c || c == '%'

lemma pieceChar_ne {c d : Char} (hc : pieceChar c = true) (hd : pieceChar d = false) : c ≠ d := by
  rintro rfl
  rw [hc] at hd
  cases hd

lemma pieceChar_safe {c : Char} (hc : pieceChar c = true) :
    (c ≠ ':' ∧ c ≠ '?' ∧ c ≠ '#' ∧ c ≠ ';' ∧ unsafeUrlByte c = false) ∧ c ≠ '/' := by
  refine ⟨⟨pieceChar_ne hc (by decide), pieceChar_ne hc (by decide), pieceChar_ne hc (by decide),
    pieceChar_ne hc (by decide), ?_⟩, pieceChar_ne hc (by decide)⟩
  have htab : c ≠ '\t' := pieceChar_ne hc (by decide)
  have hreturn : c ≠ '\r' := pieceChar_ne hc (by decide)
  have hline : c ≠ '\n' := pieceChar_ne hc (by decide)
  simp [unsafeUrlByte, htab, hreturn, hline]

lemma pieceChar_of_mem_quoteByte {b : UInt8} {c : Char} (h : c ∈ quoteByte b) :
    pieceChar c = true := by
  have hdigit : ∀ n < 16, pieceChar (Nat.digitChar n).toUpper = true := by decide
  simp only [quoteByte, List.mem_cons, List.not_mem_nil, or_false] at h
  rcases h with rfl | rfl | rfl
  · decide
  · exact hdigit _ (Nat.mod_lt _ (by decide))
  · exact hdigit _ (Nat.mod_lt _ (by decide))

lemma pieceChar_of_mem_quote {s : String} {c : Char} (h : c ∈ (quote s).toList) :
    pieceChar c = true := by
  rw [quote, String.toList_ofList, List.mem_flatMap] at h
  obtain ⟨d, -, hc⟩ := h
  split at hc
  · rename_i hd
    rw [List.mem_singleton.1 hc, pieceChar, hd]
    rfl
  · obtain ⟨b, -, hb⟩ := List.mem_flatMap.1 hc
    exact pieceChar_of_mem_quoteByte hb

/-- Text of unreserved characters is left as it is. -/
lemma quote_of_unreserved {s : String} (h : ∀ c ∈ s.toList, unreserved c = true) : quote s = s := by
  have hchars : ∀ cs : List Char, (∀ c ∈ cs, unreserved c = true) →
      (cs.flatMap fun c => if unreserved c then [c] else
        (String.utf8EncodeChar c).flatMap quoteByte) = cs := by
    intro cs hcs
    induction cs with
    | nil => rfl
    | cons c cs ih =>
      rw [List.flatMap_cons, if_pos (hcs c List.mem_cons_self),
        ih fun d hd => hcs d (List.mem_cons_of_mem _ hd)]
      rfl
  rw [quote, hchars _ h, String.ofList_toList]

lemma pieceChar_of_mem_intToString {i : ℤ} {c : Char} (h : c ∈ (toString i).toList) :
    pieceChar c = true := by
  have hnumeral := isNumeral_of_mem_intToString h
  simp only [isNumeral, Bool.or_eq_true, beq_iff_eq] at hnumeral
  rcases hnumeral with hdigit | rfl
  · simp [pieceChar, unreserved, Char.isAlphanum, hdigit]
  · decide

lemma ordinary_intToString (i : ℤ) : Ordinary (toString i).toList := by
  refine ⟨intToString_ne_nil, ?_⟩
  have hdot : '.' ∉ (toString i).toList := by
    intro hmem
    exact absurd (isNumeral_of_mem_intToString hmem) (by decide)
  rw [isDotSegment, Bool.or_eq_false_iff, beq_eq_false_iff_ne, beq_eq_false_iff_ne]
  constructor
  · intro heq
    exact hdot (by rw [heq]; decide)
  · intro heq
    exact hdot (by rw [heq]; decide)

namespace GitHubRequest

/-- The segments that a request asks for under its repository. -/
def behind : GitHubRequest → List (List Char)
  | .user | .repository => []
  | .commit defaultBranch => ["commits".toList, (quote defaultBranch).toList]
  | .issue issueNumber => ["issues".toList, (toString issueNumber).toList]
  | .comment commentId => ["issues".toList, "comments".toList, (quote commentId).toList]
  | .comments issueNumber | .commentsPage issueNumber _ =>
    ["issues".toList, (toString issueNumber).toList, "comments".toList]

def query : GitHubRequest → List Char
  | .commentsPage _ page => ("per_page=100&page=" ++ toString page).toList
  | _ => []

/-- The segments that a request is to stay under. -/
def front (owner name : List Char) : GitHubRequest → List (List Char)
  | .user => ["user".toList]
  | _ => ["repos".toList, owner, name]

end GitHubRequest

/-- The owner and the name of a repository. -/
structure Repository (repository : String) (owner name : List Char) : Prop where
  text : repository.toList = owner ++ '/' :: name
  owner : owner ≠ [] ∧ ∀ c ∈ owner, repositoryChar c = true
  name : name ≠ [] ∧ ∀ c ∈ name, repositoryChar c = true

section Requests

variable {repository : String} {owner name : List Char} {request : GitHubRequest}

lemma exists_repository (h : repositoryPattern repository = true) :
    ∃ owner name, Repository repository owner name := by
  have hparts := partitionAt_parts '/' repository.toList
  unfold repositoryPattern at h
  generalize partitionAt '/' repository.toList = parts at h hparts
  obtain ⟨owner, found, name⟩ := parts
  simp only [Bool.and_eq_true, Bool.not_eq_true', List.isEmpty_eq_false_iff, List.all_eq_true] at h
  dsimp only at hparts
  rw [h.1.1.1.1, if_pos rfl, List.append_assoc] at hparts
  exact ⟨owner, name, hparts.symm, ⟨h.1.1.1.2, h.1.1.2⟩, h.1.2, h.2⟩

lemma unreserved_of_repositoryChar {c : Char} (h : repositoryChar c = true) :
    unreserved c = true := by
  simp only [repositoryChar, Bool.or_eq_true, beq_iff_eq] at h
  rcases h with ((h | rfl) | rfl) | rfl
  · simp [unreserved, h]
  · decide
  · decide
  · decide

lemma slash_notMem_repository {cs : List Char} (h : ∀ c ∈ cs, repositoryChar c = true) :
    '/' ∉ cs := fun hmem => absurd (h '/' hmem) (by decide)

lemma repositoryPath_eq (h : Repository repository owner name) :
    repositoryPath repository = .ok repository := by
  have hquote : ∀ {cs : List Char}, (∀ c ∈ cs, repositoryChar c = true) →
      quote (String.ofList cs) = String.ofList cs := by
    intro cs hcs
    refine quote_of_unreserved fun c hc => unreserved_of_repositoryChar (hcs c ?_)
    rwa [String.toList_ofList] at hc
  rw [repositoryPath, h.text, partitionAt_append (slash_notMem_repository h.owner.2)]
  dsimp only
  rw [if_pos rfl, hquote h.owner.2, hquote h.name.2]
  refine congrArg Except.ok (String.toList_inj.1 ?_)
  rw [h.text]
  simp

/-- The path of a request, by its segments. -/
lemma path_eq (h : Repository repository owner name) :
    request.path repository = .ok (String.ofList
      (List.intercalate ['/'] (request.front owner name ++ request.behind) ++
        queryText request.query)) := by
  cases request with
  | user => rfl
  | repository | commit | issue | comment | comments | commentsPage =>
    unfold GitHubRequest.path
    rw [repositoryPath_eq h]
    refine congrArg Except.ok (String.toList_inj.1 ?_)
    simp [h.text, GitHubRequest.suffix, GitHubRequest.front, GitHubRequest.behind,
      GitHubRequest.query, queryText, List.intercalate_cons_cons]

/-- The own segments of a request are ordinary, but for a quoted piece at its end. -/
lemma staysBelow (request : GitHubRequest) (h : Repository repository owner name)
    (hdots : isDotSegment owner = false ∧ isDotSegment name = false) :
    StaysBelow (request.front owner name) request.behind := by
  have hquote : ∀ s : String, '/' ∉ (quote s).toList :=
    fun s hmem => (pieceChar_safe (pieceChar_of_mem_quote hmem)).2 rfl
  have hnumber : ∀ i : ℤ, '/' ∉ (toString i).toList :=
    fun i hmem => (pieceChar_safe (pieceChar_of_mem_intToString hmem)).2 rfl
  have hwords : ∀ s ∈ ["user".toList, "repos".toList, "commits".toList, "issues".toList,
      "comments".toList], '/' ∉ s ∧ Ordinary s := by
    unfold Ordinary
    decide
  have hfront : ∀ s ∈ request.front owner name, '/' ∉ s ∧ Ordinary s := by
    cases request with
    | user =>
      intro s hs
      obtain rfl := List.mem_singleton.1 hs
      exact hwords _ (by decide)
    | repository | commit | issue | comment | comments | commentsPage =>
      intro s hs
      simp only [GitHubRequest.front, List.mem_cons, List.not_mem_nil, or_false] at hs
      rcases hs with rfl | rfl | rfl
      · exact hwords _ (by decide)
      · exact ⟨slash_notMem_repository h.owner.2, h.owner.1, hdots.1⟩
      · exact ⟨slash_notMem_repository h.name.2, h.name.1, hdots.2⟩
  have hbehind : request.behind = [] ∨ ∃ middle last, request.behind = middle ++ [last] ∧
      middle ≠ [] ∧ (∀ s ∈ middle, '/' ∉ s ∧ Ordinary s) ∧ '/' ∉ last := by
    cases request with
    | user | repository => exact .inl rfl
    | commit defaultBranch =>
      refine .inr ⟨["commits".toList], _, rfl, List.cons_ne_nil _ _, fun s hs => ?_, hquote _⟩
      exact hwords s (by rw [List.mem_singleton.1 hs]; decide)
    | issue issueNumber =>
      refine .inr ⟨["issues".toList], _, rfl, List.cons_ne_nil _ _, fun s hs => ?_, hnumber _⟩
      exact hwords s (by rw [List.mem_singleton.1 hs]; decide)
    | comment commentId =>
      refine .inr ⟨["issues".toList, "comments".toList], _, rfl, List.cons_ne_nil _ _,
        fun s hs => ?_, hquote _⟩
      simp only [List.mem_cons, List.not_mem_nil, or_false] at hs
      rcases hs with rfl | rfl
      · exact hwords _ (by decide)
      · exact hwords _ (by decide)
    | comments issueNumber | commentsPage issueNumber page =>
      refine .inr ⟨["issues".toList, (toString issueNumber).toList], "comments".toList, rfl,
        List.cons_ne_nil _ _, fun s hs => ?_, by decide⟩
      simp only [List.mem_cons, List.not_mem_nil, or_false] at hs
      rcases hs with rfl | rfl
      · exact hwords _ (by decide)
      · exact ⟨hnumber issueNumber, ordinary_intToString issueNumber⟩
  refine ⟨fun s hs => ?_, ?_, fun s hs => (hfront s hs).2, ?_⟩
  · rcases List.mem_append.1 hs with hs | hs
    · exact (hfront s hs).1
    rcases hbehind with hnone | ⟨middle, last, hlast, -, hmiddle, hslash⟩
    · rw [hnone] at hs
      cases hs
    · rw [hlast] at hs
      rcases List.mem_append.1 hs with hs | hs
      · exact (hmiddle s hs).1
      · rw [List.mem_singleton.1 hs]
        exact hslash
  · cases request <;> exact List.cons_ne_nil _ _
  · refine hbehind.imp_right ?_
    rintro ⟨middle, last, hlast, hne, hmiddle, -⟩
    exact ⟨middle, last, hlast, hne, fun s hs => (hmiddle s hs).2⟩

lemma pieceChar_of_repositoryChar {c : Char} (h : repositoryChar c = true) :
    pieceChar c = true := by
  rw [pieceChar, unreserved_of_repositoryChar h]
  rfl

/-- All segments of a request are made of the characters of pieces. -/
lemma pieceChar_of_mem_segments (h : Repository repository owner name) :
    ∀ s ∈ request.front owner name ++ request.behind, ∀ c ∈ s, pieceChar c = true := by
  have hwords : (["user".toList, "repos".toList, "commits".toList, "issues".toList,
      "comments".toList].all fun s => s.all pieceChar) = true := by decide
  simp only [List.all_eq_true] at hwords
  have howner : ∀ c ∈ owner, pieceChar c = true :=
    fun c hc => pieceChar_of_repositoryChar (h.owner.2 c hc)
  have hname : ∀ c ∈ name, pieceChar c = true :=
    fun c hc => pieceChar_of_repositoryChar (h.name.2 c hc)
  intro s hs c hc
  cases request with
  | user =>
    obtain rfl := List.mem_singleton.1 hs
    exact hwords _ (by decide) c hc
  | repository | commit | issue | comment | comments | commentsPage =>
    simp only [GitHubRequest.front, GitHubRequest.behind, List.mem_cons, List.mem_append,
      List.not_mem_nil, or_false] at hs
    grind [pieceChar_of_mem_quote, pieceChar_of_mem_intToString]

/-- The text of a request is a path and a query that can be joined. -/
lemma relative_request (h : Repository repository owner name) :
    Relative (List.intercalate ['/'] (request.front owner name ++ request.behind))
      request.query := by
  have hne : request.front owner name ++ request.behind ≠ [] := by
    cases request <;> exact List.cons_ne_nil _ _
  refine ⟨?_, fun c hc => ?_, fun c hc => ?_⟩
  · cases request with
    | user => exact ⟨'u', "ser".toList, rfl, by decide, by decide⟩
    | repository | commit | issue | comment | comments | commentsPage =>
      exact ⟨'r', "epos".toList ++ ['/'] ++ List.intercalate ['/'] (owner :: name :: _),
        List.intercalate_cons_cons, by decide, by decide⟩
  · have hmem : c ∈ pathOf (request.front owner name ++ request.behind) := by
      rw [← slash_intercalate hne]
      exact List.mem_cons_of_mem _ hc
    rcases mem_pathOf hmem with rfl | ⟨s, hs, hcs⟩
    · decide
    · exact (pieceChar_safe (pieceChar_of_mem_segments h s hs c hcs)).1
  · cases request with
    | commentsPage issueNumber page =>
      have hc : c ∈ ("per_page=100&page=" ++ toString page).toList := hc
      rw [String.toList_append, List.mem_append] at hc
      rcases hc with hc | hc
      · have hwords : ∀ c ∈ "per_page=100&page=".toList,
            c ≠ ':' ∧ c ≠ '#' ∧ unsafeUrlByte c = false := by simp [unsafeUrlByte]
        exact hwords c hc
      · have hsafe := (pieceChar_safe (pieceChar_of_mem_intToString (i := page) hc)).1
        exact ⟨hsafe.1, hsafe.2.2.1, hsafe.2.2.2.2⟩
    | user | repository | commit | issue | comment | comments => cases hc

end Requests

lemma ok_of_check {α : Type} {p : Prop} [Decidable p] {m : Except Exn PUnit}
    {rest : PUnit → Except Exn α} {a : α} (h : (if p then m >>= rest else rest ()) = .ok a) :
    (p → m = .ok ()) ∧ rest () = .ok a := by
  split at h
  · obtain ⟨u, hm, hrest⟩ := bind_eq_ok.1 h
    exact ⟨fun _ => hm, hrest⟩
  · rename_i hp
    exact ⟨fun h => absurd h hp, h⟩

lemma ok_of_guard {α : Type} {p : Prop} [Decidable p] {e : Exn} {rest : PUnit → Except Exn α}
    {a : α} (h : (if p then (throw e : Except Exn PUnit) >>= rest else rest ()) = .ok a) :
    ¬p ∧ rest () = .ok a := by
  obtain ⟨hp, hrest⟩ := ok_of_check h
  exact ⟨fun h => absurd (hp h) (by rintro ⟨⟩), hrest⟩

section Confinement

variable [Runtime]

/-! ## Confinement -/

/-- The path that a request of the repository is to stay under. -/
def GitHubRequest.home (repository : String) : GitHubRequest → String
  | .user => "/user"
  | _ => "/repos/" ++ repository

/-- The URL has the scheme, the host and the port of the base URL, and its path goes on from the
base path with `home`, at a slash if at all. -/
def Confined (baseUrl home url : String) : Prop :=
  ∃ base parsed rest, urlsplit baseUrl = .ok base ∧ urlsplit url = .ok parsed ∧
    parsed.scheme = base.scheme ∧ parsed.hostname = base.hostname ∧ parsed.port = base.port ∧
    parsed.path.toList = basePath base ++ home.toList ++ rest ∧
    (rest = [] ∨ rest.head? = some '/')

/-- Every request either raises or is confined. -/
def RequestsConfined (baseUrl repository : String) : Prop :=
  ∀ (request : GitHubRequest) url, request.url baseUrl repository = .ok url →
    Confined baseUrl (request.home repository) url

/-- The URL holds an `@`, with no user in front of it, or a port that cannot be read. -/
def AllRefused (baseUrl : String) : Prop :=
  ∀ base, urlsplit baseUrl = .ok base →
    base.netloc.toList.contains '@' = true ∨ ∃ e, base.port = .error e

/-- Neither the owner nor the name is dots. -/
def NoDots (repository : String) : Prop :=
  ∀ s ∈ repository.toList.splitOn '/', isDotSegment s = false

/-- The base path has neither empty segments nor dots, and is not cut off from the slash at the end
of the URL. -/
def PlainPath (baseUrl : String) : Prop :=
  ∀ base, urlsplit baseUrl = .ok base →
    (∀ s ∈ segmentsOf (basePath base), Ordinary s) ∧ Closed baseUrl base

/-- The settings that enable the integration have checked the base URL of GitHub. -/
lemma githubBaseUrl_validated (settings : AcceptedSettings)
    (henabled : settings.enableDeploymentContextSync = true) :
    settings.validateIntegrationBaseUrl settings.githubBaseUrl = .ok () := by
  have h := settings.accepted
  unfold Configuration.validateWorkerSafety at h
  have h := (ok_of_guard h).2
  have h := (ok_of_guard h).2
  have h := (ok_of_guard h).2
  have h := (ok_of_check h).1 henabled
  unfold Configuration.validateDeploymentContextSync at h
  have h := (ok_of_guard h).2
  have h := (ok_of_guard h).2
  have h := (ok_of_guard h).2
  have h := (ok_of_guard h).2
  have h := (ok_of_guard h).2
  have h := (ok_of_guard h).2
  obtain ⟨_, -, h⟩ := bind_eq_ok.1 h
  obtain ⟨_, -, h⟩ := bind_eq_ok.1 h
  obtain ⟨_, hgithub, -⟩ := bind_eq_ok.1 h
  exact hgithub

/-- A base URL that is accepted is split, and split again with a slash at its end. -/
lemma exists_base {c : Configuration} {baseUrl : String}
    (h : c.validateIntegrationBaseUrl baseUrl = .ok ()) :
    ∃ base k, Base baseUrl base (basePath base ++ List.replicate k '/') ∧
      (k ≠ 0 ∨ basePath base = [] ↔ Closed baseUrl base) := by
  unfold Configuration.validateIntegrationBaseUrl at h
  obtain ⟨base, hsplit, h⟩ := bind_eq_ok.1 h
  obtain ⟨hlocated, h⟩ := ok_of_guard h
  obtain ⟨hplain, -⟩ := ok_of_guard h
  have hweb : webScheme base.scheme = true := by
    by_contra hnot
    exact hlocated (.inl (by simpa [webScheme] using hnot))
  have hscheme : base.scheme ≠ "" := by
    intro hempty
    rw [hempty] at hweb
    exact absurd hweb (by decide)
  have hnetloc : base.netloc ≠ "" := by
    intro hempty
    refine hlocated (.inr ?_)
    rw [SplitResult.hostname, SplitResult.hostinfo, hempty]
    rfl
  have hquery : base.query = "" := by
    by_contra hne
    exact hplain (.inr (.inl hne))
  have hfragment : base.fragment = "" := by
    by_contra hne
    exact hplain (.inr (.inr hne))
  obtain ⟨k, query, fragment, hslashed, hclosed⟩ :=
    urlsplit_normalizedBase hsplit hscheme hnetloc hquery hfragment
  exact ⟨base, k, ⟨hsplit, hweb, hnetloc, query, fragment, hslashed⟩, hclosed⟩

section Base

variable {baseUrl repository : String} {owner name slashed : List Char} {base : SplitResult}

/-- The URL of a request, unless all are refused. -/
lemma url_eq (laws : UnicodeLaws) (hbase : Base baseUrl base slashed)
    (h : Repository repository owner name) (request : GitHubRequest) :
    ∃ url, urlsplit url = .ok ⟨base.scheme, base.netloc,
        String.ofList (rooted (joinPath (splitParams slashed).1
          (List.intercalate ['/'] (request.front owner name ++ request.behind)))),
        String.ofList request.query, ""⟩ ∧
      request.url baseUrl repository = (do
        let _ ← base.port
        if base.netloc.toList.contains '@' then
          throw (.valueError "provider URL escaped the configured host")
        pure url) := by
  obtain ⟨url, hsplit, htrusted⟩ := trustedUrl_eq laws hbase (relative_request h)
  refine ⟨url, hsplit, ?_⟩
  rw [GitHubRequest.url, path_eq h]
  exact htrusted

lemma refused_iff (hbase : Base baseUrl base slashed) :
    AllRefused baseUrl ↔ base.netloc.toList.contains '@' = true ∨ ∃ e, base.port = .error e := by
  refine ⟨fun h => h base hbase.split, fun h base' hsplit => ?_⟩
  rw [hbase.split, Except.ok.injEq] at hsplit
  exact hsplit ▸ h

omit [Runtime] in
lemma noDots_iff (h : Repository repository owner name) :
    NoDots repository ↔ isDotSegment owner = false ∧ isDotSegment name = false := by
  rw [NoDots, h.text, List.splitOn_append_cons_self_of_not_mem (slash_notMem_repository h.owner.2),
    List.splitOn_eq_singleton (slash_notMem_repository h.name.2)]
  simp

omit [Runtime] in
lemma home_eq (h : Repository repository owner name) (request : GitHubRequest) :
    (request.home repository).toList = pathOf (request.front owner name) := by
  cases request with
  | user => simp [GitHubRequest.home, GitHubRequest.front, pathOf]
  | repository | commit | issue | comment | comments | commentsPage =>
    simp [GitHubRequest.home, GitHubRequest.front, pathOf, h.text]

lemma basePath_rooted (hbase : Base baseUrl base slashed) :
    basePath base = [] ∨ (basePath base).head? = some '/' := by
  have hprefix : basePath base <+: base.path.toList := List.rdropWhile_prefix _ _
  rcases (urlsplit_split hbase.split).rooted with hnone | hempty | hhead
  · exact absurd hnone hbase.located
  · rw [hempty] at hprefix
    exact .inl (List.prefix_nil.1 hprefix)
  · cases hpath : basePath base with
    | nil => exact .inl rfl
    | cons c rest =>
      right
      obtain ⟨tail, htail⟩ := hprefix
      rw [hpath] at htail
      rw [← htail] at hhead
      exact hhead

/-- A base path that is not cut off keeps all of its segments. -/
lemma directories_of_plain {k : ℕ} (hbase : Base baseUrl base slashed)
    (hslashed : slashed = basePath base ++ List.replicate k '/')
    (hk : k ≠ 0 ∨ basePath base = [])
    (hplain : ∀ s ∈ segmentsOf (basePath base), Ordinary s) :
    directories (splitParams slashed).1 = segmentsOf (basePath base) := by
  have hparams : (splitParams slashed).1 = slashed := by
    cases k with
    | zero =>
      rw [hslashed, hk.resolve_left (fun h => h rfl)]
      rfl
    | succ k => rw [hslashed, List.replicate_succ', ← List.append_assoc, splitParams_slash]
  rw [hparams, hslashed, directories_of_slash hk (basePath_rooted hbase), List.filter_eq_self]
  intro s hs
  simpa using (hplain s hs).1

lemma slashed_rooted (hbase : Base baseUrl base slashed) :
    slashed = [] ∨ slashed.head? = some '/' := by
  obtain ⟨query, fragment, hslashed⟩ := hbase.slashed
  rcases (urlsplit_split hslashed).rooted with hnone | hempty | hhead
  · exact absurd hnone hbase.located
  · exact .inl (by simpa using congrArg String.toList hempty)
  · rw [String.toList_ofList] at hhead
    exact .inr hhead

/-- The requests that are made are those of base URLs that are not refused. -/
lemma url_eq_ok_iff (laws : UnicodeLaws) (hbase : Base baseUrl base slashed)
    (h : Repository repository owner name) (request : GitHubRequest) :
    ∃ url, urlsplit url = .ok ⟨base.scheme, base.netloc,
        String.ofList (rooted (joinPath (splitParams slashed).1
          (List.intercalate ['/'] (request.front owner name ++ request.behind)))),
        String.ofList request.query, ""⟩ ∧
      ∀ url', request.url baseUrl repository = .ok url' ↔ ¬AllRefused baseUrl ∧ url' = url := by
  obtain ⟨url, hsplit, hrequest⟩ := url_eq laws hbase h request
  refine ⟨url, hsplit, fun url' => ?_⟩
  rw [hrequest, refused_iff hbase]
  cases base.port with
  | error e =>
    refine ⟨fun h => absurd h (by rintro ⟨⟩), fun h => absurd (Or.inr ⟨e, rfl⟩) h.1⟩
  | ok port =>
    cases base.netloc.toList.contains '@' with
    | true => exact ⟨fun h => absurd h (by rintro ⟨⟩), fun h => absurd (Or.inl rfl) h.1⟩
    | false =>
      constructor
      · intro h
        refine ⟨?_, (Except.ok.inj h).symm⟩
        rintro (hat | ⟨e, he⟩)
        · cases hat
        · cases he
      · rintro ⟨-, rfl⟩
        rfl

lemma confined_of_plain (laws : UnicodeLaws) {k : ℕ} (hbase : Base baseUrl base slashed)
    (hslashed : slashed = basePath base ++ List.replicate k '/')
    (hclosed : k ≠ 0 ∨ basePath base = [] ↔ Closed baseUrl base)
    (h : Repository repository owner name) (hdots : NoDots repository)
    (hplain : PlainPath baseUrl) : RequestsConfined baseUrl repository := by
  intro request url hurl
  obtain ⟨url', hsplit, hrequest⟩ := url_eq_ok_iff laws hbase h request
  obtain rfl := ((hrequest url).1 hurl).2
  obtain ⟨hordinary, hclosed'⟩ := hplain base hbase.split
  have hdirectories := directories_of_plain hbase hslashed (hclosed.2 hclosed') hordinary
  obtain ⟨left, rest, -, -, hrest, -, hleft, hpath⟩ :=
    joinPath_below (splitParams_rooted (slashed_rooted hbase))
      (staysBelow request h ((noDots_iff h).1 hdots))
  rw [hdirectories] at hleft
  refine ⟨base, _, pathOf rest, hbase.split, hsplit, rfl, rfl, rfl, ?_, pathOf_rooted rest⟩
  rw [String.toList_ofList, hpath, hleft fun s hs => (hordinary s hs).2, home_eq h, pathOf_append,
    pathOf_append, pathOf_segmentsOf (basePath_rooted hbase)]

/-- A request for the repository itself shows what is lost from its path. -/
lemma plain_of_confined (laws : UnicodeLaws) {k : ℕ} (hbase : Base baseUrl base slashed)
    (hslashed : slashed = basePath base ++ List.replicate k '/')
    (hclosed : k ≠ 0 ∨ basePath base = [] ↔ Closed baseUrl base)
    (h : Repository repository owner name) (hrefused : ¬AllRefused baseUrl)
    (hconfined : RequestsConfined baseUrl repository) : NoDots repository ∧ PlainPath baseUrl := by
  obtain ⟨url, hsplit, hrequest⟩ := url_eq_ok_iff laws hbase h .repository
  obtain ⟨base', parsed, rest, hbase', hparsed, -, -, -, hpath, hrest⟩ :=
    hconfined .repository url ((hrequest url).2 ⟨hrefused, rfl⟩)
  rw [hbase.split, Except.ok.injEq] at hbase'
  subst hbase'
  rw [hsplit, Except.ok.injEq] at hparsed
  subst hparsed
  have hfront : GitHubRequest.repository.front owner name = ["repos".toList, owner, name] := rfl
  have hslashes : ∀ s ∈ ["repos".toList, owner, name], '/' ∉ s := by
    intro s hs
    simp only [List.mem_cons, List.not_mem_nil, or_false] at hs
    rcases hs with rfl | rfl | rfl
    · decide
    · exact slash_notMem_repository h.owner.2
    · exact slash_notMem_repository h.name.2
  rw [String.toList_ofList, home_eq h, hfront, List.append_assoc] at hpath
  have hsegments := congrArg segmentsOf hpath
  have hlong : (pathOf ["repos".toList, owner, name] ++ rest).head? = some '/' := rfl
  rw [segmentsOf_append (.inr hlong), segmentsOf_append hrest, segmentsOf_pathOf hslashes]
    at hsegments
  have hdots : isDotSegment owner = false ∧ isDotSegment name = false := by
    have hnone : ∀ s ∈ ["repos".toList, owner, name], isDotSegment s = false := by
      intro s hs
      have hmem : s ∈ segmentsOf (basePath base) ++
          (["repos".toList, owner, name] ++ segmentsOf rest) :=
        List.mem_append_right _ (List.mem_append_left _ hs)
      rw [← hsegments] at hmem
      exact joinPath_noDots _ _ s (List.mem_of_mem_tail hmem)
    exact ⟨hnone owner (by simp), hnone name (by simp)⟩
  obtain ⟨left, below, hleft, hlength, -, hnone, -, hjoined⟩ :=
    joinPath_below (splitParams_rooted (slashed_rooted hbase))
      (staysBelow .repository h hdots)
  rw [hfront] at hjoined
  rw [hjoined, hnone rfl, List.append_nil, segmentsOf_pathOf ?_] at hsegments
  · refine ⟨(noDots_iff h).2 hdots, fun base' hsplit' => ?_⟩
    rw [hbase.split, Except.ok.injEq] at hsplit'
    subst hsplit'
    constructor
    · intro s hs
      have hmem : s ∈ left ++ ["repos".toList, owner, name] := by
        rw [hsegments]
        exact List.mem_append_left _ hs
      rcases List.mem_append.1 hmem with hmem | hmem
      · exact ⟨(mem_directories (hleft s hmem).1).2, (hleft s hmem).2⟩
      · exact (staysBelow .repository h hdots).front s hmem
    · by_contra hcut
      have hk : ¬(k ≠ 0 ∨ basePath base = []) := fun hk => hcut (hclosed.1 hk)
      rw [not_or, not_not] at hk
      have hsame : slashed = basePath base := by
        rw [hslashed, hk.1, List.replicate_zero, List.append_nil]
      have hlost := length_directories_lt ((basePath_rooted hbase).resolve_left hk.2)
      have hcount := congrArg List.length hsegments
      simp only [List.length_append] at hcount
      rw [hsame] at hlength
      omega
  · intro s hs
    rcases List.mem_append.1 hs with hs | hs
    · exact (mem_directories (hleft s hs).1).1
    · exact hslashes s hs

/-- Each request of a repository stays under the base URL and the repository if and only if all are
refused, or nothing in their paths is resolved or dropped when they are joined. -/
theorem github_requests_confined_iff (laws : UnicodeLaws) (settings : AcceptedSettings)
    (henabled : settings.enableDeploymentContextSync = true) (input : DeploymentContextSyncInput) :
    RequestsConfined settings.githubBaseUrl input.githubRepository ↔
      AllRefused settings.githubBaseUrl ∨
        NoDots input.githubRepository ∧ PlainPath settings.githubBaseUrl := by
  obtain ⟨base, k, hbase, hclosed⟩ := exists_base (githubBaseUrl_validated settings henabled)
  obtain ⟨owner, name, h⟩ := exists_repository input.githubRepository_pattern
  constructor
  · intro hconfined
    by_cases hrefused : AllRefused settings.githubBaseUrl
    · exact .inl hrefused
    · exact .inr (plain_of_confined laws hbase rfl hclosed h hrefused hconfined)
  · rintro (hrefused | ⟨hdots, hplain⟩)
    · intro request url hurl
      obtain ⟨_, -, hrequest⟩ := url_eq_ok_iff laws hbase h request
      exact absurd hrefused ((hrequest url).1 hurl).1
    · exact confined_of_plain laws hbase rfl hclosed h hdots hplain

end Base

end Confinement

section Sample

attribute [local instance] Sample.plainHost

lemma Sample.dots_length : 3 ≤ "../..".length ∧ "../..".length ≤ 200 := by decide

lemma Sample.dots_pattern : repositoryPattern "../.." = true := by decide

/-- The input for a repository whose owner and name are two dots. -/
def Sample.dotsInput : DeploymentContextSyncInput :=
  { Sample.paymentsInput with
    githubRepository := "../.."
    githubRepository_length := Sample.dots_length
    githubRepository_pattern := Sample.dots_pattern }

lemma Sample.dots_not_noDots : ¬NoDots Sample.dotsInput.githubRepository := by
  intro hdots
  exact absurd (hdots ['.', '.'] (by decide +kernel)) (by decide)

lemma Sample.plain_not_refused : ¬AllRefused "http://h" := by
  have hsplit : urlsplit "http://h" = .ok ⟨"http", "h", "", "", ""⟩ := by decide +kernel
  have hport : SplitResult.port ⟨"http", "h", "", "", ""⟩ = .ok none := by decide +kernel
  intro hrefused
  rcases hrefused _ hsplit with hat | ⟨e, he⟩
  · exact absurd hat (by decide)
  · rw [hport] at he
    cases he

open Sample in
theorem github_requests_confined_iff_dots : ∃ c : AcceptedSettings,
    c.enableDeploymentContextSync = true ∧
      ¬RequestsConfined c.githubBaseUrl dotsInput.githubRepository := by
  obtain ⟨c, -, henabled, hurl⟩ :=
    exists_settings (by decide : identifierLength "T0123" = true) (by decide)
  have hlaws : UnicodeLaws := unicodeLaws_ascii (fun _ => rfl) fun _ => rfl
  refine ⟨c, henabled, ?_⟩
  rw [github_requests_confined_iff hlaws c henabled dotsInput, hurl]
  rintro (hrefused | ⟨hdots, -⟩)
  · exact plain_not_refused hrefused
  · exact dots_not_noDots hdots

open Sample in
/-- The issue of the repository of dots is asked for at the root of the host. -/
theorem github_requests_leave_repository : ¬∀ c : AcceptedSettings,
    c.enableDeploymentContextSync = true → ∀ input : DeploymentContextSyncInput,
      RequestsConfined c.githubBaseUrl input.githubRepository := by
  intro hconfined
  obtain ⟨c, -, henabled, hurl⟩ :=
    exists_settings (by decide : identifierLength "T0123" = true) (by decide)
  have hissue : (GitHubRequest.issue 5).url "http://h" "../.." = .ok "http://h/issues/5" := by
    decide +kernel
  have hbase : urlsplit "http://h" = .ok ⟨"http", "h", "", "", ""⟩ := by decide +kernel
  have hparsed : urlsplit "http://h/issues/5" = .ok ⟨"http", "h", "/issues/5", "", ""⟩ := by
    decide +kernel
  have h := hconfined c henabled dotsInput
  rw [hurl] at h
  obtain ⟨base, parsed, rest, hsplit, hsplit', -, -, -, hpath, -⟩ := h (.issue 5) _ hissue
  rw [hbase, Except.ok.injEq] at hsplit
  rw [hparsed, Except.ok.injEq] at hsplit'
  subst hsplit hsplit'
  have hsecond := congrArg (·[1]?) hpath
  revert hsecond
  change some 'i' = some 'r' → False
  decide

end Sample

end DeploymentLab
