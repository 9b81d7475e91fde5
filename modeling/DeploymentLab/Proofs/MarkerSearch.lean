import DeploymentLab.Model.Connectors
import DeploymentLab.Model.World

/-!
# The search for a marker

The comments of an issue are read a hundred at a time. The search ends within the pages that it
may read, it says so when it has not seen the last page, and otherwise it has found every comment
with the marker.
-/

namespace DeploymentLab

/-- A reader that keeps the pages it has been asked for. -/
abbrev PageReader := ExceptT Exn (StateM (List ℕ))

/-- The pages of a stable list. -/
def loggedPage (payloads : List JsonValue) (page : ℕ) : PageReader JsonValue := fun log =>
  (.ok (servedPage payloads page), log ++ [page])

section Search

variable [Runtime] [Calendar]

/-- The comments that the connector reads in payloads. -/
def ReadAs (payloads : List JsonValue) (comments : List GitHubComment) : Prop :=
  List.Forall₂ (fun payload comment => normalizeComment payload false = .ok comment) payloads
    comments

variable (client : GitHubClient) (payloads : List JsonValue) (marker : String)

/-- A search of the issue and the pages it reads. -/
def searchIssue : Except Exn CommentSearchResult × List ℕ :=
  (client.findCommentsByMarker (loggedPage payloads) marker : PageReader _) []

/-- The least number of pages that have as many comments as the search may see. -/
def pagesForItems (maxItems : ℕ) : ℕ := (maxItems + 99) / 100

/-- The pages of a search that does not come to the end of the comments. -/
def GitHubClient.pageLimit : ℕ := min client.maxPages (max 1 (pagesForItems client.maxItems))

omit [Runtime] [Calendar] in
lemma pagesForItems_le_iff {maxItems pages : ℕ} :
    pagesForItems maxItems ≤ pages ↔ maxItems ≤ 100 * pages := by
  unfold pagesForItems
  omega

/-- The comments among these that have the marker. -/
def withMarker (comments : List GitHubComment) : List GitHubComment :=
  comments.filter fun comment => substring marker comment.body

variable {client payloads marker} {remaining page seen : ℕ} {found comments : List GitHubComment}
  {log : List ℕ}

lemma searchPages_error {x : Exn}
    (hpage : ((payloads.drop (100 * (page - 1))).take 100).mapM
      (fun item => normalizeComment item false) = .error x) :
    (client.searchPages (loggedPage payloads) marker (remaining + 1) page seen found :
        PageReader _) log = (.error x, log ++ [page]) := by
  rw [GitHubClient.searchPages]
  simp only [bind, ExceptT.bind, ExceptT.mk, StateT.bind, loggedPage, servedPage,
    ExceptT.bindCont, hpage]
  rfl

/-- One page of the search. -/
lemma searchPages_page
    (hpage : ReadAs ((payloads.drop (100 * (page - 1))).take 100) comments) :
    (client.searchPages (loggedPage payloads) marker (remaining + 1) page seen found :
        PageReader _) log =
      if comments.length < 100 then
        (.ok ⟨found ++ withMarker marker comments, true⟩, log ++ [page])
      else if page = client.maxPages ∨ client.maxItems ≤ seen + comments.length then
        (.ok ⟨found ++ withMarker marker comments, false⟩, log ++ [page])
      else (client.searchPages (loggedPage payloads) marker remaining (page + 1)
        (seen + comments.length) (found ++ withMarker marker comments) :
          PageReader _) (log ++ [page]) := by
  have hmap := mapM_eq_ok.2 hpage
  rw [GitHubClient.searchPages]
  simp only [bind, ExceptT.bind, ExceptT.mk, StateT.bind, loggedPage, servedPage,
    ExceptT.bindCont, hmap]
  split
  · rfl
  split
  · rfl
  · rfl

lemma ReadAs.unique {comments' : List GitHubComment} (h : ReadAs payloads comments)
    (h' : ReadAs payloads comments') : comments = comments' := by
  have hmap := mapM_eq_ok.2 h
  rw [mapM_eq_ok.2 h'] at hmap
  exact (Except.ok.inj hmap).symm

/-- What a search has to do, in so far as it has read `k` pages. -/
structure Searches (client : GitHubClient) (payloads : List JsonValue) (marker : String)
    (remaining k : ℕ) (log : List ℕ) (search : Except Exn CommentSearchResult × List ℕ) : Prop where
  reads : ∃ n ≤ remaining, search.2 = log ++ List.range' (k + 1) n
  sound : ∀ result, search.1 = .ok result →
    ∃ n comments, ReadAs (payloads.take n) comments ∧
      result.comments = withMarker marker comments ∧
        (result.complete = true → payloads.length ≤ n)
  exact : ∀ comments, ReadAs payloads comments →
    search.1 = .ok ⟨withMarker marker (comments.take (100 * client.pageLimit)),
      decide (comments.length < 100 * client.pageLimit)⟩

lemma ReadAs.length_eq (h : ReadAs payloads comments) : comments.length = payloads.length :=
  (List.Forall₂.length_eq h).symm

section Pages

variable {k : ℕ} {earlier : List GitHubComment}

/-- The page that cannot be read ends the search, and then the list cannot be read. -/
lemma searches_error {x : Exn}
    (hpage : ((payloads.drop (100 * k)).take 100).mapM
      (fun item => normalizeComment item false) = .error x) :
    Searches client payloads marker (remaining + 1) k log (.error x, log ++ [k + 1]) where
  reads := ⟨1, by omega, rfl⟩
  sound result h := by cases h
  exact comments hread := by
    have hpart : ReadAs ((payloads.drop (100 * k)).take 100) ((comments.drop (100 * k)).take 100) :=
      List.forall₂_take _ (List.forall₂_drop _ hread)
    rw [mapM_eq_ok.2 hpart] at hpage
    cases hpage

/-- So does the last page, and then the whole list has been read. -/
lemma searches_complete (hread : ReadAs payloads comments)
    (hfew : payloads.length < 100 * client.pageLimit) :
    Searches client payloads marker (remaining + 1) k log
      (.ok ⟨withMarker marker comments, true⟩, log ++ [k + 1]) where
  reads := ⟨1, by omega, rfl⟩
  sound result h := by
    obtain rfl := Except.ok.inj h
    refine ⟨payloads.length, comments, ?_, rfl, fun _ => le_rfl⟩
    rwa [List.take_length]
  exact comments' hread' := by
    have hfew' : comments'.length < 100 * client.pageLimit := by rwa [hread'.length_eq]
    rw [hread.unique hread', List.take_of_length_le hfew'.le, decide_eq_true hfew']

/-- So does the page at which a limit is met, and then the list has been read up to it. -/
lemma searches_limited (hread : ReadAs (payloads.take (100 * (k + 1))) comments)
    (hfull : 100 * (k + 1) ≤ payloads.length) (hlimit : client.pageLimit = k + 1) :
    Searches client payloads marker (remaining + 1) k log
      (.ok ⟨withMarker marker comments, false⟩, log ++ [k + 1]) where
  reads := ⟨1, by omega, rfl⟩
  sound result h := by
    obtain rfl := Except.ok.inj h
    exact ⟨_, _, hread, rfl, Bool.noConfusion⟩
  exact comments' hread' := by
    have hmany : ¬comments'.length < 100 * (k + 1) := by
      rw [hread'.length_eq]
      omega
    have hpart : ReadAs (payloads.take (100 * (k + 1))) (comments'.take (100 * (k + 1))) :=
      List.forall₂_take _ hread'
    rw [hlimit, decide_eq_false hmany, hread.unique hpart]

/-- Any other page is followed by the search from the next one on. -/
lemma Searches.next {search : Except Exn CommentSearchResult × List ℕ}
    (h : Searches client payloads marker remaining (k + 1) (log ++ [k + 1]) search) :
    Searches client payloads marker (remaining + 1) k log search := by
  obtain ⟨⟨n, hn, hlog⟩, hsound, hexact⟩ := h
  refine ⟨⟨n + 1, by omega, ?_⟩, hsound, hexact⟩
  rw [hlog, List.range'_succ, List.append_assoc, List.singleton_append]

omit [Runtime] [Calendar] in
/-- The search ends where it would not come to another page. -/
lemma pageLimit_eq_iff (hlimit : k < client.pageLimit) :
    client.pageLimit = k + 1 ↔ k + 1 = client.maxPages ∨ client.maxItems ≤ 100 * (k + 1) := by
  rw [← pagesForItems_le_iff]
  rw [GitHubClient.pageLimit] at hlimit ⊢
  omega

/-- The search from any page on, when all pages before it were full. -/
lemma searchPages_searches (log : List ℕ)
    (hpages : remaining + k = client.maxPages) (hlimit : k < client.pageLimit)
    (hfull : 100 * k ≤ payloads.length) (hearlier : ReadAs (payloads.take (100 * k)) earlier) :
    Searches client payloads marker remaining k log
      ((client.searchPages (loggedPage payloads) marker remaining (k + 1) (100 * k)
        (withMarker marker earlier) : PageReader _) log) := by
  induction remaining generalizing k earlier log with
  | zero =>
    rw [GitHubClient.pageLimit] at hlimit
    omega
  | succ remaining ih =>
    have hchunk : (payloads.drop (100 * (k + 1 - 1))).take 100 =
        (payloads.drop (100 * k)).take 100 := by rw [Nat.add_sub_cancel]
    cases hmap : ((payloads.drop (100 * k)).take 100).mapM
        (fun item => normalizeComment item false) with
    | error x =>
      rw [searchPages_error (by rw [hchunk]; exact hmap)]
      exact searches_error hmap
    | ok comments =>
      have hpage : ReadAs ((payloads.drop (100 * k)).take 100) comments := mapM_eq_ok.1 hmap
      have hlength : comments.length = min 100 (payloads.length - 100 * k) := by
        rw [hpage.length_eq, List.length_take, List.length_drop]
      have htake : ReadAs (payloads.take (100 * (k + 1))) (earlier ++ comments) := by
        rw [Nat.mul_add, Nat.mul_one, List.take_add]
        exact List.rel_append hearlier hpage
      have hfound : withMarker marker earlier ++ withMarker marker comments =
          withMarker marker (earlier ++ comments) := (List.filter_append _ _).symm
      rw [searchPages_page (by rw [hchunk]; exact hpage), hfound]
      by_cases hshort : comments.length < 100
      · rw [if_pos hshort]
        rw [List.take_of_length_le (by omega)] at htake
        exact searches_complete htake (by omega)
      rw [if_neg hshort]
      have hfull' : 100 * (k + 1) ≤ payloads.length := by omega
      have hseen : 100 * k + comments.length = 100 * (k + 1) := by omega
      rw [hseen]
      by_cases hlast : k + 1 = client.maxPages ∨ client.maxItems ≤ 100 * (k + 1)
      · rw [if_pos hlast]
        exact searches_limited htake hfull' ((pageLimit_eq_iff hlimit).2 hlast)
      · rw [if_neg hlast]
        have hlimit' : k + 1 < client.pageLimit :=
          lt_of_le_of_ne hlimit fun heq => hlast ((pageLimit_eq_iff hlimit).1 heq.symm)
        exact (ih (log ++ [k + 1]) (by omega) hlimit' hfull' htake).next

end Pages

lemma searchIssue_searches (hpages : 1 ≤ client.maxPages) :
    Searches client payloads marker client.maxPages 0 [] (searchIssue client payloads marker) := by
  have hnone : ReadAs (payloads.take (100 * 0)) [] := .nil
  have hlimit : 0 < client.pageLimit := by
    rw [GitHubClient.pageLimit]
    omega
  exact searchPages_searches [] (by omega) hlimit (by omega) hnone

/-- The search reads the pages from the first one on, as many as it may at most. If it is complete,
it has found the comments with the marker, in their order and each once; and it is complete when
there are fewer comments than on the pages that it may read. -/
theorem search_complete_or_says_so (client : GitHubClient) (payloads : List JsonValue)
    (marker : String) (hpages : 1 ≤ client.maxPages) :
    (∃ n ≤ client.maxPages, (searchIssue client payloads marker).2 = List.range' 1 n) ∧
      (∀ result, (searchIssue client payloads marker).1 = .ok result → result.complete = true →
        ∃ comments, ReadAs payloads comments ∧
          result.comments = comments.filter (fun comment => substring marker comment.body) ∧
          ((comments.map (·.identifier)).Nodup → (result.comments.map (·.identifier)).Nodup)) ∧
      (∀ comments, ReadAs payloads comments →
        payloads.length < 100 * min client.maxPages (pagesForItems client.maxItems) →
          ∃ result, (searchIssue client payloads marker).1 = .ok result ∧
            result.complete = true) := by
  have hsearches : Searches client payloads marker client.maxPages 0 []
      (searchIssue client payloads marker) := searchIssue_searches hpages
  obtain ⟨n, hn, hlog⟩ := hsearches.reads
  refine ⟨⟨n, hn, hlog⟩, fun result hresult hcomplete => ?_, fun comments hread hfew => ?_⟩
  · obtain ⟨n, comments, hread, hfound, hall⟩ := hsearches.sound result hresult
    rw [List.take_of_length_le (hall hcomplete)] at hread
    refine ⟨comments, hread, hfound, fun hnodup => ?_⟩
    rw [hfound]
    exact hnodup.sublist (List.filter_sublist.map _)
  · have hall : comments.length < 100 * client.pageLimit := by
      rw [hread.length_eq, GitHubClient.pageLimit]
      omega
    exact ⟨_, hsearches.exact comments hread, decide_eq_true hall⟩

end Search

/-! ## An issue with two comments -/

namespace Sample

@[reducible] def anyCalendar : Calendar where
  fromisoformat _ := some ⟨2024, 5, 6, 7, 8, 10, 0, some 0⟩

def pagedClient : GitHubClient where
  expectedLogin := none
  maxPages := 1
  maxItems := 150

def plainComment (id : ℤ) (body : String) : IssueComment where
  id := id
  author := "dev"
  body := body
  htmlUrl := "https://h/1"
  updatedAt := "now"

def plainPayloads : List JsonValue :=
  [(plainComment 1 "a mark").payload, (plainComment 2 "none").payload]

attribute [local instance] asciiHost anyCalendar in
lemma mapM_plainPayloads :
    ((plainPayloads.mapM fun item => normalizeComment item false).toOption.map fun comments =>
      comments.map (·.identifier)) = some ["1", "2"] := by
  decide +kernel

end Sample

attribute [local instance] Sample.asciiHost Sample.anyCalendar in
open Sample in
theorem search_complete_or_says_so_plain :
    ∃ result, (searchIssue pagedClient plainPayloads "mark").1 = .ok result ∧
      result.complete = true := by
  have hplain := mapM_plainPayloads
  cases hmap : plainPayloads.mapM fun item => normalizeComment item false with
  | error x =>
    rw [hmap] at hplain
    cases hplain
  | ok comments =>
    obtain ⟨-, -, hcomplete⟩ :=
      search_complete_or_says_so pagedClient plainPayloads "mark" (by decide)
    exact hcomplete comments (mapM_eq_ok.1 hmap) (by decide)

end DeploymentLab
