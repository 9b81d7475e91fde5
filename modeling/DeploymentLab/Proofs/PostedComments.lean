import DeploymentLab.Library.Flight
import DeploymentLab.Model.World
import DeploymentLab.Proofs.MarkerScopes

/-!
# What GitHub is relied on for

GitHub is any provider of which these hypotheses hold (`HostsComments`). A create that has been
issued may add its comment once, at any time before the one that the ledger has noted in
`reconcile_not_before`, and an update may be made at any later time, whatever the caller is told and
whether or not it is still there. What is answered is true of the comments at that time, and a
complete search has found every comment. Other people write, change and delete comments of their
own, and nobody but the workflow changes what its comments say.

Then every comment that the workflow has added keeps the marker of one scope, also when it is
updated, and its identifier is not one of anybody else's. So what GitHub does by itself never makes
more of the comments of a scope stand on an issue.
-/

namespace DeploymentLab

open Flight

structure PostedComment where
  repositoryId : ℤ
  issueNumber : ℤ
  comment : GitHubComment
  deleted : Bool := false
  deriving DecidableEq

structure CreateRequest where
  repositoryId : ℤ
  issueNumber : ℤ
  body : String
  deriving DecidableEq

structure EditRequest where
  repositoryId : ℤ
  identifier : String
  body : String
  deriving DecidableEq

/-- The comment is there, on the issue and with the marker. -/
def PostedComment.carries (repositoryId issueNumber : ℤ) (marker : String)
    (posted : PostedComment) : Bool :=
  !posted.deleted && posted.repositoryId == repositoryId && posted.issueNumber == issueNumber &&
    substring marker posted.comment.body

def CreateRequest.carries (repositoryId issueNumber : ℤ) (marker : String)
    (create : CreateRequest) : Bool :=
  create.repositoryId == repositoryId && create.issueNumber == issueNumber &&
    substring marker create.body

/-- The comments that creates of the workflow have added, those of other people, the identifiers
that comments of other people have had, and the writes that may still be made. -/
structure PostedComments where
  ours : List PostedComment := []
  others : List PostedComment := []
  taken : List String := []
  creates : List (Request CreateRequest Timestamp) := []
  edits : List EditRequest := []

/-- A create or an update is made; people change their comments; a comment of the workflow is
deleted. -/
inductive CommentChange
  | accept (n : ℕ) (identifier url : String) (updatedAt : Datetime)
  | edit (n : ℕ) (updatedAt : Datetime)
  | people (others : List PostedComment)
  | delete (identifier : String)

namespace PostedComments

variable (s : PostedComments)

/-- Only other people have written. -/
def initial (others : List PostedComment) : PostedComments where
  others := others
  taken := others.map (·.comment.identifier)

def found (repositoryId issueNumber : ℤ) (marker : String) : List GitHubComment :=
  ((s.ours ++ s.others).filter (·.carries repositoryId issueNumber marker)).map (·.comment)

def lookup (repositoryId : ℤ) (identifier : String) : Option GitHubComment :=
  ((s.ours ++ s.others).find? fun posted => !posted.deleted &&
    posted.repositoryId == repositoryId && posted.comment.identifier == identifier).map (·.comment)

/-- A call that succeeds tells of the comments as they are. -/
def truthful (resolve : String → ℤ) : (e : Effect) → Outcome e → Bool
  | .findCommentsByMarker repository issueNumber marker, .ok search =>
    let found := s.found (resolve repository) issueNumber marker
    if CommentSearchResult.complete search then
      (CommentSearchResult.comments search).isPerm found
    else (CommentSearchResult.comments search).all found.contains
  | .getComment repository identifier, .ok comment =>
    comment == s.lookup (resolve repository) identifier
  | .createComment repository issueNumber body, .ok comment =>
    GitHubComment.body comment == body && s.ours.any fun posted =>
      posted.comment == comment && posted.repositoryId == resolve repository &&
        posted.issueNumber == issueNumber
  | .updateComment repository identifier body, .ok comment =>
    GitHubComment.body comment == body &&
      s.lookup (resolve repository) identifier == some comment
  | _, _ => true

/-- The create `n` adds its comment, under an identifier that no comment has had. -/
def accept (now : Timestamp) (n : ℕ) (identifier url : String) (updatedAt : Datetime) :
    Option PostedComments := do
  let create ← s.creates[n]?
  if create.live now && !s.taken.contains identifier &&
      s.ours.all (·.comment.identifier != identifier) then
    some { s with
      ours := s.ours ++ [{
        repositoryId := create.content.repositoryId
        issueNumber := create.content.issueNumber
        comment := { identifier, body := create.content.body, url, updatedAt } }]
      creates := s.creates.eraseIdx n }
  else none

def edited (edit : EditRequest) (updatedAt : Datetime) (posted : PostedComment) :
    PostedComment :=
  if posted.repositoryId = edit.repositoryId ∧ posted.comment.identifier = edit.identifier then
    { posted with comment := { posted.comment with body := edit.body, updatedAt } }
  else posted

/-- The update `n` is made. -/
def edit (n : ℕ) (updatedAt : Datetime) : Option PostedComments :=
  s.edits[n]?.map fun edit =>
    { s with
      ours := s.ours.map (edited edit updatedAt)
      edits := s.edits.eraseIdx n }

/-- Other people have written, changed and deleted comments of theirs. -/
def people (others : List PostedComment) : Option PostedComments :=
  if others.all fun posted =>
      s.ours.all (·.comment.identifier != posted.comment.identifier) then
    some { s with others, taken := s.taken ++ others.map (·.comment.identifier) }
  else none

def delete (identifier : String) : PostedComments :=
  { s with ours := s.ours.map fun posted =>
      if posted.comment.identifier = identifier then { posted with deleted := true } else posted }

def change (now : Timestamp) : CommentChange → Option PostedComments
  | .accept n identifier url updatedAt => s.accept now n identifier url updatedAt
  | .edit n updatedAt => s.edit n updatedAt
  | .people others => s.people others
  | .delete identifier => some (s.delete identifier)

/-- What may become of the comments without a call. -/
def Later (now : Timestamp) : PostedComments → PostedComments → Prop :=
  Relation.ReflTransGen fun s s' => ∃ change, s.change now change = some s'

end PostedComments

/-- The time that the row with the marker in `body` notes for its write to have come through. -/
def writeDeadline [Runtime] (db : Database) (body : String) : Option Timestamp :=
  (db.externalActions.find? fun a => substring (safeMarker a.actionScopeKey) body).bind
    (·.reconcileNotBefore)

/-- The providers host the comments that `view` shows, under the repository ids that `resolve`
gives. The other calls may be answered with anything. -/
structure HostsComments [Runtime] {S M : Type} (resolve : String → ℤ) (providers : Provider S M)
    (view : S → PostedComments) : Prop where
  create : ∀ db repository issueNumber body s,
    view (providers.issue db (.createComment repository issueNumber body) s) =
      { view s with creates := (view s).creates ++
          [⟨⟨resolve repository, issueNumber, body⟩, writeDeadline db body⟩] }
  update : ∀ db repository identifier body s,
    view (providers.issue db (.updateComment repository identifier body) s) =
      { view s with edits := (view s).edits ++ [⟨resolve repository, identifier, body⟩] }
  other : ∀ db e s, e.writesComment = false → view (providers.issue db e s) = view s
  answers : ∀ m now e s r s', providers.respond m now e s = some (r, s') →
    (view s).Later now (view s') ∧ (view s').truthful resolve e r = true
  acts : ∀ m now s s', providers.act m now s = some s' → (view s).Later now (view s')

section Markers

variable [Runtime] {s t body : String}

/-- The text has the marker of the scope, and no other. -/
def Marked (scope body : String) : Prop :=
  ∀ t, substring (safeMarker t) body = true ↔ Runtime.sha256 t = Runtime.sha256 scope

lemma RenderedFor.marked (h : RenderedFor s body) : Marked s body := fun _ => h.substring_iff

lemma Marked.self (h : Marked s body) : substring (safeMarker s) body = true := (h s).2 rfl

lemma Marked.digest (h : Marked s body) (ht : Marked t body) :
    Runtime.sha256 s = Runtime.sha256 t := (ht s).1 h.self

lemma Marked.congr (h : Marked s body) (hdigest : Runtime.sha256 s = Runtime.sha256 t) :
    Marked t body := by
  intro u
  rw [h u, hdigest]

lemma Marked.of_markers {body' : String} (h : Marked s body)
    (hsame : ∀ t, substring (safeMarker t) body' = substring (safeMarker t) body) :
    Marked s body' := by
  intro t
  rw [hsame]
  exact h t

end Markers

namespace PostedComments

variable [Runtime] {s s' : PostedComments} {now : Timestamp}

/-- The identifier is one of other people's comments, or of a comment for the scope. -/
def Known (s : PostedComments) (identifier scope : String) : Prop :=
  identifier ∈ s.taken ∨ ∃ posted ∈ s.ours, posted.comment.identifier = identifier ∧
    Marked scope posted.comment.body

structure Sound (s : PostedComments) : Prop where
  apart : ∀ posted ∈ s.ours, posted.comment.identifier ∉ s.taken
  foreign : ∀ posted ∈ s.others, posted.comment.identifier ∈ s.taken
  unique : (s.ours.map (·.comment.identifier)).Nodup
  marked : ∀ posted ∈ s.ours, ∃ scope, Marked scope posted.comment.body
  creates : ∀ create ∈ s.creates, ∃ scope, Marked scope create.content.body
  edits : ∀ edit ∈ s.edits, ∃ scope, Marked scope edit.body ∧ s.Known edit.identifier scope

/-- How many comments for the scope are on the issue, or may still be added to it. -/
def standing (s : PostedComments) (now : Timestamp) (repositoryId issueNumber : ℤ)
    (scope : String) : ℕ :=
  Flight.standing (CreateRequest.carries repositoryId issueNumber (safeMarker scope))
    (PostedComment.carries repositoryId issueNumber (safeMarker scope)) now s.creates s.ours

/-- No comment for the scope is on the issue, or may still be added to it or to any other. -/
structure Quiet (s : PostedComments) (now : Timestamp) (repositoryId issueNumber : ℤ)
    (scope : String) : Prop where
  here : Flight.Quiet (CreateRequest.carries repositoryId issueNumber (safeMarker scope))
    (PostedComment.carries repositoryId issueNumber (safeMarker scope)) now s.creates s.ours
  anywhere : Expired (fun create : CreateRequest => substring (safeMarker scope) create.body) now
    s.creates

/-- No create is under way, and no scope has two comments on an issue. -/
structure Settled (s : PostedComments) (now : Timestamp) : Prop where
  sound : s.Sound
  creates : s.creates = []
  single : ∀ repositoryId issueNumber scope, s.standing now repositoryId issueNumber scope ≤ 1

/-- What GitHub may do by itself. -/
structure Evolves (now : Timestamp) (s s' : PostedComments) : Prop where
  sound : s'.Sound
  known : ∀ identifier scope, s.Known identifier scope → s'.Known identifier scope
  creates : s'.creates ⊆ s.creates
  standing : ∀ repositoryId issueNumber scope,
    s'.standing now repositoryId issueNumber scope ≤ s.standing now repositoryId issueNumber scope
  quiet : ∀ repositoryId issueNumber scope, s.Quiet now repositoryId issueNumber scope →
    s'.Quiet now repositoryId issueNumber scope

lemma Quiet.later {next : Timestamp} {repositoryId issueNumber : ℤ} {scope : String}
    (h : s.Quiet now repositoryId issueNumber scope) (hle : now ≤ next) :
    s.Quiet next repositoryId issueNumber scope :=
  ⟨h.here.later hle, h.anywhere.later hle⟩

lemma settled_initial {others : List PostedComment} :
    (PostedComments.initial others).Settled now where
  sound := ⟨fun _ => nofun, fun _ hposted => List.mem_map_of_mem hposted, List.nodup_nil,
    fun _ => nofun, fun _ => nofun, fun _ => nofun⟩
  creates := rfl
  single _ _ _ := Nat.zero_le 1

lemma Sound.evolves (hs : s.Sound) : Evolves now s s :=
  ⟨hs, fun _ _ h => h, List.Subset.refl _, fun _ _ _ => Nat.le_refl _, fun _ _ _ h => h⟩

/-- A comment of the workflow that is known to be of the scope has its marker. -/
lemma Sound.marked_of_known (hs : s.Sound) {posted : PostedComment} {scope : String}
    (hposted : posted ∈ s.ours) (hknown : s.Known posted.comment.identifier scope) :
    Marked scope posted.comment.body := by
  rcases hknown with htaken | ⟨posted', hposted', hid, hmarked⟩
  · exact absurd htaken (hs.apart posted hposted)
  · rwa [← List.inj_on_of_nodup_map hs.unique hposted' hposted hid]

lemma Known.mono {identifier scope : String} (h : s.Known identifier scope)
    (htaken : s.taken ⊆ s'.taken) (hours : s.ours ⊆ s'.ours) : s'.Known identifier scope :=
  h.imp (fun hmem => htaken hmem) fun ⟨posted, hposted, hrest⟩ => ⟨posted, hours hposted, hrest⟩

lemma known_map {f : PostedComment → PostedComment} {edits : List EditRequest}
    {identifier scope : String}
    (hid : ∀ posted, (f posted).comment.identifier = posted.comment.identifier)
    (hbody : ∀ posted ∈ s.ours, ∀ t, substring (safeMarker t) (f posted).comment.body =
      substring (safeMarker t) posted.comment.body) (h : s.Known identifier scope) :
    Known { s with ours := s.ours.map f, edits := edits } identifier scope := by
  refine h.imp_right fun ⟨posted, hposted, heq, hmarked⟩ => ?_
  exact ⟨f posted, List.mem_map_of_mem hposted, (hid posted).trans heq,
    hmarked.of_markers (hbody posted hposted)⟩

/-- The comments of the workflow change, with their identifiers and markers kept. -/
lemma Sound.map (hs : s.Sound) {f : PostedComment → PostedComment} {edits : List EditRequest}
    (hid : ∀ posted, (f posted).comment.identifier = posted.comment.identifier)
    (hbody : ∀ posted ∈ s.ours, ∀ t, substring (safeMarker t) (f posted).comment.body =
      substring (safeMarker t) posted.comment.body)
    (hcarries : ∀ posted ∈ s.ours, ∀ repositoryId issueNumber t,
      (f posted).carries repositoryId issueNumber (safeMarker t) = true →
        posted.carries repositoryId issueNumber (safeMarker t) = true)
    (hedits : edits ⊆ s.edits) :
    Evolves now s { s with ours := s.ours.map f, edits := edits } where
  sound := by
    refine ⟨fun posted hposted => ?_, hs.foreign, ?_, fun posted hposted => ?_, hs.creates,
      fun edit hedit => ?_⟩
    · obtain ⟨posted, hold, rfl⟩ := List.mem_map.1 hposted
      rw [hid]
      exact hs.apart posted hold
    · have hsame : (s.ours.map f).map (·.comment.identifier) =
          s.ours.map (·.comment.identifier) := by
        rw [List.map_map]
        exact List.map_congr_left fun posted _ => hid posted
      rw [hsame]
      exact hs.unique
    · obtain ⟨posted, hold, rfl⟩ := List.mem_map.1 hposted
      obtain ⟨scope, hmarked⟩ := hs.marked posted hold
      exact ⟨scope, hmarked.of_markers (hbody posted hold)⟩
    · obtain ⟨scope, hmarked, hknown⟩ := hs.edits edit (hedits hedit)
      exact ⟨scope, hmarked, known_map hid hbody hknown⟩
  known identifier scope hknown := known_map hid hbody hknown
  creates := List.Subset.refl _
  standing repositoryId issueNumber scope :=
    standing_map fun posted hposted => hcarries posted hposted repositoryId issueNumber scope
  quiet repositoryId issueNumber scope hquiet :=
    ⟨hquiet.here.map fun posted hposted => hcarries posted hposted repositoryId issueNumber scope,
      hquiet.anywhere⟩

/-- An update leaves the markers of the comment as they are. -/
lemma Sound.edited (hs : s.Sound) {edit : EditRequest} {updatedAt : Datetime}
    {posted : PostedComment} (hedit : edit ∈ s.edits) (hposted : posted ∈ s.ours) (t : String) :
    substring (safeMarker t) (edited edit updatedAt posted).comment.body =
      substring (safeMarker t) posted.comment.body := by
  unfold PostedComments.edited
  split
  · rename_i htarget
    obtain ⟨scope, hmarked, hknown⟩ := hs.edits edit hedit
    rw [← htarget.2] at hknown
    rw [Bool.eq_iff_iff, hmarked t, hs.marked_of_known hposted hknown t]
  · rfl

lemma Sound.edit (hs : s.Sound) {n : ℕ} {updatedAt : Datetime}
    (hedit : s.edit n updatedAt = some s') : Evolves now s s' := by
  obtain ⟨edit, hn, rfl⟩ := Option.map_eq_some_iff.1 hedit
  have hmem := List.mem_of_getElem? hn
  refine hs.map (fun posted => ?_) (fun posted hposted t => hs.edited hmem hposted t)
    (fun posted hposted repositoryId issueNumber t => ?_) (List.eraseIdx_subset ..)
  · unfold PostedComments.edited
    split <;> rfl
  · have hbody : substring (safeMarker t)
        (PostedComments.edited edit updatedAt posted).comment.body =
        substring (safeMarker t) posted.comment.body := hs.edited hmem hposted t
    unfold PostedComment.carries
    rw [hbody]
    unfold PostedComments.edited
    split <;> exact id

lemma Sound.delete (hs : s.Sound) (identifier : String) : Evolves now s (s.delete identifier) := by
  refine hs.map (fun posted => ?_) (fun posted _ t => ?_)
    (fun posted _ repositoryId issueNumber t => ?_) (List.Subset.refl s.edits)
  · split <;> rfl
  · split <;> rfl
  · split
    · intro hcarries
      cases hcarries
    · exact id

lemma Sound.people (hs : s.Sound) {others : List PostedComment}
    (hpeople : s.people others = some s') : Evolves now s s' := by
  unfold PostedComments.people at hpeople
  split at hpeople
  · rename_i hapart
    cases hpeople
    have htaken : s.taken ⊆ s.taken ++ others.map (·.comment.identifier) :=
      List.subset_append_left ..
    refine ⟨⟨fun posted hposted => ?_, fun posted hposted => ?_, hs.unique, hs.marked, hs.creates,
      fun edit hedit => ?_⟩, fun _ _ hknown => hknown.mono htaken (List.Subset.refl _),
      List.Subset.refl _, fun _ _ _ => Nat.le_refl _,
      fun _ _ _ hquiet => ⟨hquiet.here, hquiet.anywhere⟩⟩
    · rw [List.mem_append, not_or]
      refine ⟨hs.apart posted hposted, fun hmem => ?_⟩
      obtain ⟨other, hother, heq⟩ := List.mem_map.1 hmem
      have := List.all_eq_true.1 (List.all_eq_true.1 hapart other hother) posted hposted
      rw [bne_iff_ne] at this
      exact this heq.symm
    · exact List.mem_append_right _ (List.mem_map_of_mem hposted)
    · obtain ⟨scope, hmarked, hknown⟩ := hs.edits edit hedit
      exact ⟨scope, hmarked, hknown.mono htaken (List.Subset.refl _)⟩
  · cases hpeople

lemma Sound.accept (hs : s.Sound) {n : ℕ} {identifier url : String} {updatedAt : Datetime}
    (haccept : s.accept now n identifier url updatedAt = some s') : Evolves now s s' := by
  unfold PostedComments.accept at haccept
  obtain ⟨create, hcreate, haccept⟩ := Option.bind_eq_some_iff.1 haccept
  split at haccept
  · rename_i hallowed
    cases haccept
    rw [Bool.and_eq_true, Bool.and_eq_true, Bool.not_eq_true', List.all_eq_true] at hallowed
    obtain ⟨⟨hlive, huntaken⟩, hfresh⟩ := hallowed
    have hmem := List.mem_of_getElem? hcreate
    have hours : ∀ added, s.ours ⊆ s.ours ++ [added] := fun added => List.subset_append_left ..
    refine ⟨⟨fun posted hposted => ?_, hs.foreign, ?_, fun posted hposted => ?_,
      fun create hcreate => hs.creates create (List.mem_of_mem_eraseIdx hcreate),
      fun edit hedit => ?_⟩, fun _ _ hknown => hknown.mono (List.Subset.refl _) (hours _),
      List.eraseIdx_subset .., fun _ _ _ => Eq.le (standing_land hcreate hlive (by rfl)),
      fun _ _ _ hquiet => ⟨hquiet.here.land hcreate hlive rfl, fun create hcreate =>
        hquiet.anywhere create (List.mem_of_mem_eraseIdx hcreate)⟩⟩
    · rcases List.mem_append.1 hposted with hposted | hposted
      · exact hs.apart posted hposted
      · obtain rfl := List.mem_singleton.1 hposted
        simpa using huntaken
    · rw [List.map_append, List.nodup_append]
      refine ⟨hs.unique, List.nodup_singleton _, fun identifier' hold identifier'' hnew => ?_⟩
      obtain ⟨posted, hposted, rfl⟩ := List.mem_map.1 hold
      rw [List.map_singleton, List.mem_singleton] at hnew
      rw [hnew]
      exact bne_iff_ne.1 (hfresh posted hposted)
    · rcases List.mem_append.1 hposted with hposted | hposted
      · exact hs.marked posted hposted
      · obtain rfl := List.mem_singleton.1 hposted
        exact hs.creates create hmem
    · obtain ⟨scope, hmarked, hknown⟩ := hs.edits edit hedit
      exact ⟨scope, hmarked, hknown.mono (List.Subset.refl _) (hours _)⟩
  · cases haccept

lemma Sound.change (hs : s.Sound) {change : CommentChange}
    (hchange : s.change now change = some s') :
    Evolves now s s' := by
  cases change with
  | accept n identifier url updatedAt => exact hs.accept hchange
  | edit n updatedAt => exact hs.edit hchange
  | people others => exact hs.people hchange
  | delete identifier =>
    cases hchange
    exact hs.delete identifier

lemma Evolves.trans {s'' : PostedComments} (h : Evolves now s s') (h' : Evolves now s' s'') :
    Evolves now s s'' where
  sound := h'.sound
  known identifier scope hknown := h'.known _ _ (h.known identifier scope hknown)
  creates := List.Subset.trans h'.creates h.creates
  standing repositoryId issueNumber scope :=
    (h'.standing repositoryId issueNumber scope).trans (h.standing repositoryId issueNumber scope)
  quiet _ _ _ hquiet := h'.quiet _ _ _ (h.quiet _ _ _ hquiet)

/-- Whatever becomes of the comments without a call, nothing more comes to stand there. -/
theorem Sound.later (hs : s.Sound) (hlater : s.Later now s') : Evolves now s s' := by
  induction hlater with
  | refl => exact hs.evolves
  | tail _ hstep ih =>
    obtain ⟨change, hchange⟩ := hstep
    exact ih.trans (ih.sound.change hchange)

end PostedComments

end DeploymentLab
