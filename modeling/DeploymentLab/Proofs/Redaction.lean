import DeploymentLab.Library.Play
import DeploymentLab.Proofs.CatalogPolicy
import DeploymentLab.Proofs.PolicyOrder

/-!
# What restricted records give away

The evidence keeps of a confidential or restricted record what `redacted` leaves of it. Two runs
whose catalogs differ in nothing else do the same, call for call, and no provider but the catalog
is called where such a record stands for the service.
-/

namespace DeploymentLab

open Interaction HandlerContext DeploymentContextSyncHandler

namespace ServiceCatalogRecord

/-- The record without what is not told of it where its data are restricted. -/
def redacted (record : ServiceCatalogRecord) : ServiceCatalogRecord :=
  if isRestricted record.dataClassification then
    { record with
      serviceOwner := none
      criticality := ""
      approvedRepositories := []
      automaticPublicationAllowed := false
      requiredReviewer := none
      allowAutomaticUpdates := false }
  else record

variable {record record' : ServiceCatalogRecord}

lemma redacted_of_unrestricted (h : isRestricted record.dataClassification = false) :
    record.redacted = record := by
  rw [redacted, h]
  rfl

lemma redacted_cases (record : ServiceCatalogRecord) : record.redacted = record ∨
    isRestricted record.dataClassification = true ∧ record.redacted = { record with
      serviceOwner := none
      criticality := ""
      approvedRepositories := []
      automaticPublicationAllowed := false
      requiredReviewer := none
      allowAutomaticUpdates := false } := by
  cases hrestricted : isRestricted record.dataClassification with
  | false => exact .inl (redacted_of_unrestricted hrestricted)
  | true => exact .inr ⟨rfl, if_pos hrestricted⟩

@[simp] lemma redacted_dataClassification :
    record.redacted.dataClassification = record.dataClassification := by
  rcases record.redacted_cases with heq | ⟨-, heq⟩ <;> rw [heq]

@[simp] lemma resolves_redacted [Runtime] {serviceId : String} :
    record.redacted.resolves serviceId = record.resolves serviceId := by
  rcases record.redacted_cases with heq | ⟨-, heq⟩
  · rw [heq]
  · rw [heq]
    rfl

/-- What is kept of a record is kept of it once it is redacted. -/
lemma catalogPayload_redacted : catalogPayload record.redacted = catalogPayload record := by
  rcases record.redacted_cases with heq | ⟨hrestricted, heq⟩
  · rw [heq]
  · rw [heq, catalogPayload, catalogPayload, hrestricted]
    rfl

end ServiceCatalogRecord

section Catalog

variable [Runtime] {records records' : List ServiceCatalogRecord} {task : TaskExecution}

/-- A record that stands for the service is confidential or restricted. -/
def Withheld (serviceId : String) (records : List ServiceCatalogRecord) : Prop :=
  ∃ record ∈ records, record.resolves serviceId = true ∧
    isRestricted record.dataClassification = true

omit [Runtime] in
lemma recordCatalog_redacted :
    recordCatalog task (records.map (·.redacted)) = recordCatalog task records := by
  induction records with
  | nil => rfl
  | cons record records ih =>
    have hpayload := record.catalogPayload_redacted
    rw [List.map_cons, recordCatalog, recordCatalog, ih, hpayload]
    rcases record.redacted_cases with heq | ⟨-, heq⟩
    · rw [heq]
    · rw [heq]

lemma filter_redacted {serviceId : String} (hopen : ¬Withheld serviceId records) :
    (records.map (·.redacted)).filter (·.resolves serviceId) =
      records.filter (·.resolves serviceId) := by
  induction records with
  | nil => rfl
  | cons record records ih =>
    have hrest : ¬Withheld serviceId records := fun ⟨item, hmem, hitem⟩ =>
      hopen ⟨item, List.mem_cons_of_mem _ hmem, hitem⟩
    rw [List.map_cons, List.filter_cons, List.filter_cons, ih hrest,
      ServiceCatalogRecord.resolves_redacted]
    by_cases hresolves : record.resolves serviceId = true
    · have hunrestricted : isRestricted record.dataClassification = false := by
        by_contra hne
        exact hopen ⟨record, List.mem_cons_self, hresolves, by simpa using hne⟩
      rw [if_pos hresolves, if_pos hresolves,
        ServiceCatalogRecord.redacted_of_unrestricted hunrestricted]
    · rw [if_neg hresolves, if_neg hresolves]

lemma withheld_redacted {serviceId : String} :
    Withheld serviceId (records.map (·.redacted)) ↔ Withheld serviceId records := by
  simp [Withheld]

/-- Of the records that stand for the service the evaluation sees nothing but what is told. -/
lemma evaluateServiceCatalog_redacted {taskInput : DeploymentContextSyncInput}
    {settings : Settings} (hopen : ¬Withheld taskInput.serviceId records) :
    evaluateServiceCatalog taskInput (records.map (·.redacted)) settings =
      evaluateServiceCatalog taskInput records settings := by
  rw [evaluateServiceCatalog, evaluateServiceCatalog, filter_redacted hopen]

/-- A service that a confidential or restricted record stands for is not ready. -/
lemma evaluateServiceCatalog_withheld {taskInput : DeploymentContextSyncInput}
    {settings : Settings} (hwithheld : Withheld taskInput.serviceId records) :
    (evaluateServiceCatalog taskInput records settings).outcome ≠ .ready := by
  intro hready
  obtain ⟨restricted, hmem, hresolves, hrestricted⟩ := hwithheld
  have happroves := ((evaluate_ready_iff _ _ _).1 hready).approved restricted hmem
    (ServiceCatalogRecord.resolves_iff.1 hresolves)
  rcases happroves.unrestricted with hclass | hclass
  · simp [hclass, isRestricted] at hrestricted
  · simp [hclass, isRestricted] at hrestricted

end Catalog

/-! ## Two runs -/

/-- What is the same in an act when restricted records are told apart by nothing else. -/
def redactedAct : Act handlerSignature DeploymentContextResult →
    Act handlerSignature DeploymentContextResult
  | .answered (.fetchRecords serviceId) (.ok records) =>
    .answered (.fetchRecords serviceId) (.ok (List.map ServiceCatalogRecord.redacted records))
  | act => act

/-- The source artifacts that a run records, newest first, with what the store has made of each. -/
def recordings : SyncPast → List (ArtifactRequest × Except Exn SourceArtifact)
  | [] => []
  | .answered (.record request) r :: h => (request, r) :: recordings h
  | _ :: h => recordings h

/-- The environments differ in restricted records of the catalog only, and there in nothing that
is told of such records. -/
structure VariesRestricted {σ : Type} (env env' : Surroundings handlerSignature σ) : Prop where
  agrees : env.AgreesOn (fun e : Effect => e.readsCatalog = false) env'
  state : ∀ serviceId s,
    (env.answer (.fetchRecords serviceId) s).2 = (env'.answer (.fetchRecords serviceId) s).2
  records : ∀ serviceId s,
    (env.answer (.fetchRecords serviceId) s).1.map (List.map ServiceCatalogRecord.redacted) =
      (env'.answer (.fetchRecords serviceId) s).1.map (List.map ServiceCatalogRecord.redacted)

/-- The await records what the catalog has told. -/
def RecordsCatalog (e : Effect) : Prop :=
  ∃ request, e = .record request ∧ request.provider = "service_catalog"

section Runs

variable [Runtime] {σ : Type} {env env' : Surroundings handlerSignature σ}

/-- Where a restricted record stands for the service, the catalog is read and recorded, and
nothing else is done. -/
def KeepsToCatalog (h : SyncPast) : Prop :=
  ∀ serviceId records, .answered (.fetchRecords serviceId) (.ok records) ∈ h →
    Withheld serviceId records →
      ∀ e, .issued e ∈ h → e.readsCatalog = true ∨ RecordsCatalog e

/-- Two runs that nothing but the catalog's restricted records can tell apart. -/
structure Indistinct {β : Type}
    (q q' : Played handlerSignature DeploymentContextResult β σ) : Prop where
  past : q.past.map redactedAct = q'.past.map redactedAct
  kept : KeepsToCatalog q.past

omit [Runtime] in
lemma recordings_redacted (h : SyncPast) : recordings (h.map redactedAct) = recordings h := by
  induction h with
  | nil => rfl
  | cons act h ih =>
    rw [List.map_cons]
    cases act with
    | issued e => exact ih
    | ended r => exact ih
    | answered e r =>
      cases e with
      | record request => exact congrArg (List.cons (request, r)) ih
      | fetchRecords serviceId =>
        cases r with
        | ok records => exact ih
        | error x => exact ih
      | reserveOrGet | transition | revise | reconciliationDelaySeconds | verifyGitHubIdentity
      | fetchContext | getComment | findCommentsByMarker | createComment | updateComment
      | fetchIssue | verifySlackIdentity | postNotification => exact ih

lemma keepsToCatalog_nil : KeepsToCatalog [] := fun _ _ hmem => by cases hmem

variable {handler : DeploymentContextSyncHandler} {task : TaskExecution}
  {taskInput : DeploymentContextSyncInput} {records records' : List ServiceCatalogRecord} {s : σ}

variable (handler task taskInput) in
/-- `execute` once the records of the catalog are recorded. -/
def evaluated (evaluation : PolicyEvaluation) (references : List SourceReference) :
    Handler Exit :=
  if evaluation.outcome ≠ .ready then do
    let now ← datetimeNow
    pure { result := result evaluation references (.ofTimestamp now) }
  else match evaluation.record with
  | none => .raise (.permanentTaskError "service_catalog_contract_error")
  | some service => readGithub handler task taskInput evaluation service references

variable (handler task taskInput) in
/-- `execute` from the answer of the catalog on. -/
def catalogued (records : List ServiceCatalogRecord) : Handler DeploymentContextResult := do
  raiseIfCancelled
  let references ← recordCatalog task records
  let exit ← evaluated handler task taskInput
    (evaluateServiceCatalog taskInput records handler.settings) references
  finish handler task taskInput exit

/-- `execute` once its request has been found to be in scope. -/
lemma readCatalog_bind : (readCatalog handler task taskInput).bind
      (finish handler task taskInput) =
    (providerCall (.fetchRecords taskInput.serviceId)).bind
      (catalogued handler task taskInput) := by
  have hread : readCatalog handler task taskInput = (do
      let records ← providerCall (.fetchRecords taskInput.serviceId)
      raiseIfCancelled
      let references ← recordCatalog task records
      evaluated handler task taskInput
        (evaluateServiceCatalog taskInput records handler.settings) references) := rfl
  rw [hread]
  unfold catalogued
  simp only [Prog.bind_eq, Prog.bind_assoc]

omit [Runtime] in
lemma recordCatalog_records : (recordCatalog task records).Issues RecordsCatalog := by
  induction records with
  | nil => trivial
  | cons record records ih =>
    refine Prog.Issues.bind (p := datetimeNow) (fun _ => trivial) fun fetchedAt => ?_
    refine issues_await ?_ fun artifact => ?_
    · exact ⟨_, rfl, rfl⟩
    · exact ih.bind fun references => trivial

lemma catalogued_later :
    (catalogued handler task taskInput records).Issues (LaterEffect handler.settings task) := by
  refine issues_checked ?_
  refine (recordCatalog_issues.mono fun _ he => he.later).bind fun references => ?_
  refine Prog.Issues.bind ?_ fun exit => finish_issues
  unfold evaluated
  split
  · exact fun context => trivial
  split
  · trivial
  · exact readGithub_issues

/-- A run that reports an evaluation does nothing else. -/
lemma report_silent (handler : DeploymentContextSyncHandler) (task : TaskExecution)
    (taskInput : DeploymentContextSyncInput) (evaluation : PolicyEvaluation)
    (references : List SourceReference) :
    ((do
        let now ← datetimeNow
        pure { result := result evaluation references (.ofTimestamp now) } : Handler Exit).bind
      (finish handler task taskInput)).Issues fun _ => False := by
  intro context
  change (finish handler task taskInput
    { result := result evaluation references (.ofTimestamp context.wallClock) }).Issues _
  unfold finish
  split
  · trivial
  · trivial

/-- The end of a run that the catalog has not let pass. -/
lemma evaluated_silent {evaluation : PolicyEvaluation} {references : List SourceReference}
    (hunready : evaluation.outcome ≠ .ready) :
    ((evaluated handler task taskInput evaluation references).bind
      (finish handler task taskInput)).Issues fun _ => False := by
  unfold evaluated
  rw [if_pos hunready]
  exact report_silent handler task taskInput evaluation references

/-- A run that has read the catalog. -/
def fetched (serviceId : String) (records : List ServiceCatalogRecord) : SyncPast :=
  [.answered (.fetchRecords serviceId) (.ok records), .issued (.fetchRecords serviceId)]

omit [Runtime] in
lemma fetched_redacted {serviceId : String}
    (hredacted : records.map (·.redacted) = records'.map (·.redacted)) :
    (fetched serviceId records).map redactedAct = (fetched serviceId records').map redactedAct := by
  simp only [fetched, List.map_cons, List.map_nil, redactedAct]
  rw [hredacted]

variable (task) in
/-- What a run does with the answer of the catalog, whatever the evaluation says. -/
def catalogOpening (records : List ServiceCatalogRecord) : Handler (List SourceReference) :=
  raiseIfCancelled.bind fun _ => recordCatalog task records

lemma catalogued_eq : catalogued handler task taskInput records =
    (catalogOpening task records).bind fun references =>
      (evaluated handler task taskInput
        (evaluateServiceCatalog taskInput records handler.settings) references).bind
          (finish handler task taskInput) :=
  (Prog.bind_assoc _ _ _).symm

omit [Runtime] in
lemma catalogOpening_congr (hredacted : records.map (·.redacted) = records'.map (·.redacted)) :
    catalogOpening task records = catalogOpening task records' := by
  have hrecord : recordCatalog task records = recordCatalog task records' := by
    rw [← recordCatalog_redacted, hredacted, recordCatalog_redacted]
  rw [catalogOpening, hrecord, catalogOpening]

/-- A restricted record stands for the service: both runs record what is told, and end. -/
lemma withheld_indistinct (hvary : VariesRestricted env env')
    (hredacted : records.map (·.redacted) = records'.map (·.redacted))
    (hwithheld : Withheld taskInput.serviceId records) :
    Indistinct
      ((catalogued handler task taskInput records).play env s (fetched taskInput.serviceId records))
      ((catalogued handler task taskInput records').play env' s
        (fetched taskInput.serviceId records')) := by
  have hwithheld' : Withheld taskInput.serviceId records' := by
    rw [← withheld_redacted, ← hredacted, withheld_redacted]
    exact hwithheld
  have hopening : (catalogOpening task records).Issues RecordsCatalog :=
    issues_checked recordCatalog_records
  have hagrees : env.AgreesOn RecordsCatalog env' := hvary.agrees.mono fun e he => by
    obtain ⟨request, rfl, -⟩ := he
    rfl
  obtain ⟨added, hpast, hpast', hresult, -, habout⟩ := hopening.play_agrees hagrees s
    (fetched taskInput.serviceId records) (fetched taskInput.serviceId records')
  have hmasked : (added ++ fetched taskInput.serviceId records).map redactedAct =
      (added ++ fetched taskInput.serviceId records').map redactedAct := by
    rw [List.map_append, List.map_append, fetched_redacted hredacted]
  have hkept : KeepsToCatalog (added ++ fetched taskInput.serviceId records) := by
    intro serviceId found hmem _ e he
    rcases List.mem_append.1 he with he | he
    · exact .inr (habout _ he)
    · simp only [fetched, List.mem_cons, List.not_mem_nil, or_false] at he
      rcases he with heq | heq
      · cases heq
      · cases heq
        exact .inl rfl
  rw [catalogued_eq, catalogued_eq, ← catalogOpening_congr hredacted, Prog.play_bind,
    Prog.play_bind, Prog.resume, Prog.resume, ← hresult]
  cases ((catalogOpening task records).play env s (fetched taskInput.serviceId records)).result with
  | error x => exact ⟨by rw [hpast, hpast', hmasked], by rw [hpast]; exact hkept⟩
  | ok references =>
    have hend : ((evaluated handler task taskInput
        (evaluateServiceCatalog taskInput records handler.settings) references).bind
        (finish handler task taskInput)).Issues fun _ => False :=
      evaluated_silent (evaluateServiceCatalog_withheld hwithheld)
    have hend' : ((evaluated handler task taskInput
        (evaluateServiceCatalog taskInput records' handler.settings) references).bind
        (finish handler task taskInput)).Issues fun _ => False :=
      evaluated_silent (evaluateServiceCatalog_withheld hwithheld')
    constructor
    · rw [hend.play_past, hend'.play_past, hpast, hpast', hmasked]
    · rw [hend.play_past, hpast]
      exact hkept

/-- No restricted record stands for the service: both runs are runs of one program. -/
lemma unwithheld_indistinct (hvary : VariesRestricted env env')
    (hredacted : records.map (·.redacted) = records'.map (·.redacted))
    (hopen : ¬Withheld taskInput.serviceId records) :
    Indistinct
      ((catalogued handler task taskInput records).play env s (fetched taskInput.serviceId records))
      ((catalogued handler task taskInput records').play env' s
        (fetched taskInput.serviceId records')) := by
  have hopen' : ¬Withheld taskInput.serviceId records' := by
    rw [← withheld_redacted, ← hredacted, withheld_redacted]
    exact hopen
  have hsame : catalogued handler task taskInput records' =
      catalogued handler task taskInput records := by
    have hevaluation : evaluateServiceCatalog taskInput records' handler.settings =
        evaluateServiceCatalog taskInput records handler.settings := by
      rw [← evaluateServiceCatalog_redacted hopen', ← hredacted,
        evaluateServiceCatalog_redacted hopen]
    rw [catalogued_eq, catalogued_eq, catalogOpening_congr hredacted, hevaluation]
  have hlater : (catalogued handler task taskInput records).Issues
      (LaterEffect handler.settings task) := catalogued_later
  obtain ⟨added, hpast, hpast', -, -, habout⟩ :=
    hlater.play_agrees (hvary.agrees.mono fun _ he => he.2) s
      (fetched taskInput.serviceId records) (fetched taskInput.serviceId records')
  rw [hsame]
  constructor
  · rw [hpast, hpast', List.map_append, List.map_append, fetched_redacted hredacted]
  · intro serviceId found hmem hwithheld
    rw [hpast] at hmem
    rcases List.mem_append.1 hmem with hmem | hmem
    · have hread := (habout _ hmem).2
      cases hread
    · simp only [fetched, List.mem_cons, List.not_mem_nil, or_false] at hmem
      rcases hmem with heq | heq
      · cases heq
        exact absurd hwithheld hopen
      · cases heq

omit [Runtime] in
lemma play_providerCall_ok {β : Type} {e : Effect} {f : e.Answer → Handler β} {a : e.Answer}
    {s' : σ} {h : SyncPast} (hanswer : env.answer e s = (.ok a, s')) :
    ((providerCall e).bind f).play env s h =
      (f a).play env s' (.answered e (.ok a) :: .issued e :: h) := by
  change Prog.play env (Prog.call e _) s h = _
  rw [Prog.play_call, hanswer]
  rfl

omit [Runtime] in
lemma play_providerCall_error {β : Type} {e : Effect} {f : e.Answer → Handler β} {x : Exn}
    {s' : σ} {h : SyncPast} (hanswer : env.answer e s = (.error x, s')) :
    (((providerCall e).bind f).play env s h).past = .answered e (.error x) :: .issued e :: h := by
  change (Prog.play env (Prog.call e _) s h).past = _
  rw [Prog.play_call, hanswer]
  cases x <;> rfl

lemma readCatalog_indistinct (hvary : VariesRestricted env env') :
    Indistinct
      (((readCatalog handler task taskInput).bind (finish handler task taskInput)).play env s [])
      (((readCatalog handler task taskInput).bind (finish handler task taskInput)).play env' s
        []) := by
  rw [readCatalog_bind]
  have hstate := hvary.state taskInput.serviceId s
  have hrecords := hvary.records taskInput.serviceId s
  cases hanswer : env.answer (.fetchRecords taskInput.serviceId) s with
  | mk r s₁ =>
    cases hanswer' : env'.answer (.fetchRecords taskInput.serviceId) s with
    | mk r' s₁' =>
      rw [hanswer, hanswer'] at hstate hrecords
      obtain rfl : s₁ = s₁' := hstate
      cases r with
      | error x =>
        cases r' with
        | ok records' => cases hrecords
        | error x' =>
          cases hrecords
          constructor
          · rw [play_providerCall_error hanswer, play_providerCall_error hanswer']
          · rw [play_providerCall_error hanswer]
            intro serviceId found hmem
            simp at hmem
      | ok records =>
        cases r' with
        | error x' => cases hrecords
        | ok records' =>
          have hredacted : records.map (·.redacted) = records'.map (·.redacted) :=
            Except.ok.inj hrecords
          rw [play_providerCall_ok hanswer, play_providerCall_ok hanswer']
          by_cases hwithheld : Withheld taskInput.serviceId records
          · exact withheld_indistinct hvary hredacted hwithheld
          · exact unwithheld_indistinct hvary hredacted hwithheld

variable (handler task taskInput) in
/-- `execute` up to its first await. -/
def requested : Handler Unit :=
  (Prog.ofExcept (validateSlackRequest handler taskInput)).bind fun _ => raiseIfCancelled

lemma authoritative_bind : (authoritative handler task taskInput).bind
      (finish handler task taskInput) =
    (requested handler taskInput).bind fun _ =>
      match evaluateStaticScope taskInput handler.settings with
      | some evaluation => (do
          let now ← datetimeNow
          pure { result := result evaluation [] (.ofTimestamp now) } : Handler Exit).bind
            (finish handler task taskInput)
      | none => (readCatalog handler task taskInput).bind (finish handler task taskInput) := by
  unfold authoritative requested
  simp only [Prog.bind_eq, Prog.bind_assoc]
  cases evaluateStaticScope taskInput handler.settings <;> rfl

lemma authoritative_indistinct (hvary : VariesRestricted env env') :
    Indistinct
      (((authoritative handler task taskInput).bind (finish handler task taskInput)).play env s [])
      (((authoritative handler task taskInput).bind (finish handler task taskInput)).play env' s
        []) := by
  have hsilent : (requested handler taskInput).Issues fun _ => False :=
    Prog.issues_ofExcept.bind fun _ => issues_raiseIfCancelled
  obtain ⟨hpast, hpast', hresult, hstate⟩ :=
    hsilent.play_silent hvary.agrees.view s ([] : SyncPast) []
  rw [authoritative_bind, Prog.play_bind, Prog.play_bind, Prog.resume, Prog.resume, ← hresult,
    ← hstate, hpast, hpast']
  cases ((requested handler taskInput).play env s ([] : SyncPast)).result with
  | error x => exact ⟨rfl, keepsToCatalog_nil⟩
  | ok _ =>
    cases evaluateStaticScope taskInput handler.settings with
    | none => exact readCatalog_indistinct hvary
    | some evaluation =>
      have hreport := report_silent handler task taskInput evaluation []
      constructor
      · rw [hreport.play_past, hreport.play_past]
      · rw [hreport.play_past]
        exact keepsToCatalog_nil

end Runs

/-- Two runs whose inputs differ in nothing but what is not told of restricted records do the same,
call for call, and record the same artifacts; and where a restricted record stands for the
service, a run does nothing but read and record the catalog. -/
theorem restricted_undisclosed [Runtime] [LaxCoercion] {σ : Type}
    {env env' : Surroundings handlerSignature σ} (hvary : VariesRestricted env env')
    (handler : DeploymentContextSyncHandler) (task : TaskExecution) (input : JsonValue) (s : σ) :
    let run := (execute handler task input).play env s ([] : SyncPast)
    let run' := (execute handler task input).play env' s ([] : SyncPast)
    run.past.map redactedAct = run'.past.map redactedAct ∧
      recordings run.past = recordings run'.past ∧
      ∀ serviceId records, .answered (.fetchRecords serviceId) (.ok records) ∈ run.past →
        Withheld serviceId records →
          ∀ e, .issued e ∈ run.past → e.readsCatalog = true ∨ RecordsCatalog e := by
  have hindistinct : Indistinct ((execute handler task input).play env s ([] : SyncPast))
      ((execute handler task input).play env' s []) := by
    unfold execute
    split
    · exact ⟨rfl, keepsToCatalog_nil⟩
    · exact authoritative_indistinct hvary
  refine ⟨hindistinct.past, ?_, hindistinct.kept⟩
  rw [← recordings_redacted, hindistinct.past, recordings_redacted]

namespace Sample

/-- The catalog's record, restricted, with the owner `owner`. -/
def restrictedRecord (owner : String) : ServiceCatalogRecord :=
  { catalogRecord with
    dataClassification := .restricted
    serviceOwner := some owner
    approvedRepositories := [owner ++ "/payments"] }

/-- The sources of the sample, with a catalog that holds a restricted record. -/
def restrictedCatalog (owner : String) : Surroundings handlerSignature Unit where
  view _ := ({}, ())
  answer e _ :=
    match e with
    | .fetchRecords _ => (.ok [restrictedRecord owner], ())
    | e => (syncAnswers (.ok ⟨[], true⟩) e, ())

lemma restrictedCatalog_varies (owner owner' : String) :
    VariesRestricted (restrictedCatalog owner) (restrictedCatalog owner') where
  agrees := by
    refine ⟨fun _ => rfl, fun e s he => ?_⟩
    cases e with
    | fetchRecords => cases he
    | record | reserveOrGet | transition | revise | reconciliationDelaySeconds
    | verifyGitHubIdentity | fetchContext | getComment | findCommentsByMarker | createComment
    | updateComment | fetchIssue | verifySlackIdentity | postNotification => rfl
  state _ _ := rfl
  records _ _ := rfl

end Sample

attribute [local instance] Sample.syncHost Sample.laxCoercion in
open Sample in
theorem restricted_undisclosed_owner :
    let run := (execute (syncTask 1).handler (syncTask 1).task syncInput).play
      (restrictedCatalog "acme") () ([] : SyncPast)
    let run' := (execute (syncTask 1).handler (syncTask 1).task syncInput).play
      (restrictedCatalog "mallory") () ([] : SyncPast)
    run.past.length = 4 ∧ (recordings run.past).length = 1 ∧
      run.past.map redactedAct = run'.past.map redactedAct ∧
      recordings run.past = recordings run'.past := by
  have hboth := restricted_undisclosed (restrictedCatalog_varies "acme" "mallory")
    (syncTask 1).handler (syncTask 1).task syncInput ()
  exact ⟨by decide +kernel, by decide +kernel, hboth.1, hboth.2.1⟩

end DeploymentLab
