import DeploymentLab.Model.Connectors
import DeploymentLab.Model.World
import DeploymentLab.Proofs.Escaping
import DeploymentLab.Proofs.Snapshots

/-!
# The notification as its reader sees it

The template has five lines and one link. The limits on a message leave room for a sixth line, and
escaping leaves line breaks and the bar of a link alone, so what the service and the URL say decides
whether the message is read as it was put together.
-/

namespace DeploymentLab

section Lines

variable {line cs rest : List Char} {c : Char}

def oneLine (cs : List Char) : Bool := cs.all fun c => !isLineBoundary c

lemma oneLine_iff : oneLine cs = true ↔ ∀ c ∈ cs, isLineBoundary c = false := by
  simp [oneLine]

/-- What holds of each character at which a line ends. -/
lemma of_isLineBoundary (p : Char → Prop)
    (h : ∀ n ∈ [10, 11, 12, 13, 28, 29, 30, 133, 8232, 8233], p (Char.ofNat n))
    (hc : isLineBoundary c = true) : p c := by
  rw [← Char.ofNat_toNat c]
  apply h
  simpa [isLineBoundary] using hc

lemma splitLines_cons (hc : isLineBoundary c = false) :
    splitLines line (c :: cs) = splitLines (c :: line) cs := by
  rw [splitLines]
  · simp [hc]
  · intro cs' hreturn
    rintro -
    rw [hreturn] at hc
    revert hc
    decide

lemma splitLines_append (hcs : ∀ c ∈ cs, isLineBoundary c = false) :
    splitLines line (cs ++ rest) = splitLines (cs.reverse ++ line) rest := by
  induction cs generalizing line with
  | nil => rfl
  | cons c cs ih =>
    rw [List.cons_append, splitLines_cons (hcs c List.mem_cons_self),
      ih fun d hd => hcs d (List.mem_cons_of_mem _ hd)]
    simp

/-- A line break ends the line. -/
lemma splitLines_newline (hcs : ∀ c ∈ cs, isLineBoundary c = false) :
    splitLines [] (cs ++ '\n' :: rest) = cs :: splitLines [] rest := by
  rw [splitLines_append hcs, splitLines]
  · simp [isLineBoundary]
  · simp

/-- The last line does without. -/
lemma splitLines_last (hcs : ∀ c ∈ cs, isLineBoundary c = false) (hne : cs ≠ []) :
    splitLines [] cs = [cs] := by
  have h : splitLines [] (cs ++ []) = splitLines (cs.reverse ++ []) [] := splitLines_append hcs
  rw [List.append_nil, List.append_nil] at h
  rw [h, splitLines, if_neg (by simpa using hne), List.reverse_reverse]

lemma splitLines_intercalate {lines : List (List Char)}
    (h : ∀ l ∈ lines, l ≠ [] ∧ ∀ c ∈ l, isLineBoundary c = false) :
    splitLines [] (List.intercalate ['\n'] lines) = lines := by
  induction lines with
  | nil => rfl
  | cons l lines ih =>
    obtain ⟨hne, hplain⟩ := h l List.mem_cons_self
    cases lines with
    | nil =>
      rw [List.intercalate_singleton]
      exact splitLines_last hplain hne
    | cons l' lines =>
      rw [List.intercalate_cons_cons, List.append_assoc, List.singleton_append,
        splitLines_newline hplain, ih fun l hl => h l (List.mem_cons_of_mem _ hl)]

/-- No line holds a line break. -/
lemma boundary_notMem_splitLines : ∀ {cs line : List Char},
    (∀ c ∈ line, isLineBoundary c = false) →
      ∀ l ∈ splitLines line cs, ∀ c ∈ l, isLineBoundary c = false := by
  intro cs line
  fun_induction splitLines line cs with
  | case1 => simp
  | case2 line hne =>
    intro hline l hl c hc
    rw [List.mem_singleton.1 hl] at hc
    exact hline c (List.mem_reverse.1 hc)
  | case3 line cs ih =>
    intro hline l hl c hc
    rcases List.mem_cons.1 hl with rfl | hl
    · exact hline c (List.mem_reverse.1 hc)
    · exact ih (by simp) l hl c hc
  | case4 line c cs _ hboundary ih =>
    intro hline l hl d hd
    rcases List.mem_cons.1 hl with rfl | hl
    · exact hline d (List.mem_reverse.1 hd)
    · exact ih (by simp) l hl d hd
  | case5 line c cs _ hplain ih =>
    intro hline
    apply ih
    intro d hd
    rcases List.mem_cons.1 hd with rfl | hd
    · exact Bool.eq_false_iff.2 hplain
    · exact hline d hd

end Lines

/-- The links `<target|label>` of a text, where a target goes up to the first bar; `link` is what
has been read of a link, in reverse, inside of one. -/
def slackLinks (link : Option (List Char)) : List Char → List (List Char × List Char)
  | [] => []
  | c :: cs =>
    match link with
    | none => if c = '<' then slackLinks (some []) cs else slackLinks none cs
    | some read =>
      if c = '>' then
        let (target, found, label) := partitionAt '|' read.reverse
        (if found then [(target, label)] else []) ++ slackLinks none cs
      else slackLinks (some (c :: read)) cs

section Links

variable {cs rest read : List Char}

lemma slackLinks_none_append (hcs : '<' ∉ cs) :
    slackLinks none (cs ++ rest) = slackLinks none rest := by
  induction cs with
  | nil => rfl
  | cons c cs ih =>
    rw [List.mem_cons, not_or] at hcs
    rw [List.cons_append, slackLinks, if_neg (Ne.symm hcs.1), ih hcs.2]

lemma slackLinks_none (hcs : '<' ∉ cs) : slackLinks none cs = [] := by
  have h : slackLinks none (cs ++ []) = slackLinks none [] := slackLinks_none_append hcs
  rw [List.append_nil] at h
  rw [h, slackLinks]

lemma slackLinks_some_append (hcs : '>' ∉ cs) :
    slackLinks (some read) (cs ++ rest) = slackLinks (some (cs.reverse ++ read)) rest := by
  induction cs generalizing read with
  | nil => rfl
  | cons c cs ih =>
    rw [List.mem_cons, not_or] at hcs
    rw [List.cons_append, slackLinks, if_neg (Ne.symm hcs.1), ih hcs.2]
    simp

lemma bar_notMem_target {link : Option (List Char)} :
    ∀ item ∈ slackLinks link cs, '|' ∉ item.1 := by
  fun_induction slackLinks link cs with
  | case1 => simp
  | case2 cs ih => exact ih
  | case3 c cs hne ih => exact ih
  | case4 cs read target found label heq ih =>
    intro item hitem
    rcases List.mem_append.1 hitem with hitem | hitem
    · have htarget : '|' ∉ (partitionAt '|' read.reverse).1 := notMem_partitionAt
      split at hitem
      · rw [List.mem_singleton.1 hitem]
        rwa [heq] at htarget
      · cases hitem
    · exact ih item hitem
  | case5 c cs read hne ih => exact ih

end Links

/-! ## The template -/

def templateLines (outcome : DecisionOutcome) (service url : String) (revision : ℤ) :
    List String :=
  ["Deployment context sync", "Decision: " ++ outcome.value,
    "Service: " ++ htmlEscape service false,
    "Authoritative GitHub: <" ++ htmlEscape url ++ "|deployment-context comment>",
    "GitHub revision: " ++ toString revision]

/-- The text reads as the lines of the template and the one link in them. -/
structure FixedTemplate (outcome : DecisionOutcome) (service url : String) (revision : ℤ)
    (text : String) : Prop where
  lines : splitLines [] text.toList =
    (templateLines outcome service url revision).map String.toList
  links : slackLinks none text.toList =
    [((htmlEscape url).toList, "deployment-context comment".toList)]

section Template

variable {outcome outcome' : DecisionOutcome} {service service' url url' text : String}
  {revision revision' : ℤ}

/-- What the template is filled with can be read back. -/
lemma FixedTemplate.readBack (h : FixedTemplate outcome service url revision text)
    (h' : FixedTemplate outcome' service' url' revision' text) :
    outcome = outcome' ∧ service = service' ∧ url = url' ∧ revision = revision' := by
  have hlines := h.lines.symm.trans h'.lines
  have hlinks := h.links.symm.trans h'.links
  simp only [templateLines, List.map_cons, List.map_nil, List.cons.injEq, true_and, and_true,
    String.toList_inj, String.append_right_inj] at hlines
  obtain ⟨houtcome, hservice, -, hrevision⟩ := hlines
  have htarget : (htmlEscape url).toList = (htmlEscape url').toList :=
    congrArg Prod.fst (List.cons.inj hlinks).1
  exact ⟨DecisionOutcome.value_injective houtcome, htmlEscape_injective hservice,
    htmlEscape_injective (String.toList_inj.1 htarget), Reading.intToString_injective hrevision⟩

lemma unescaped_of_isLineBoundary {c : Char} (hc : isLineBoundary c = true) :
    unescaped c = true :=
  of_isLineBoundary (unescaped · = true) (by decide) hc

lemma htmlEscape_oneLine_iff {s : String} {quote : Bool} :
    (∀ c ∈ (htmlEscape s quote).toList, isLineBoundary c = false) ↔
      ∀ c ∈ s.toList, isLineBoundary c = false := by
  constructor
  · intro h c hc
    by_contra hboundary
    rw [Bool.not_eq_false] at hboundary
    have hmem : c ∈ (htmlEscape s quote).toList :=
      (mem_htmlEscape_iff (unescaped_of_isLineBoundary hboundary)).2 hc
    rw [h c hmem] at hboundary
    cases hboundary
  · intro h c hc
    by_contra hboundary
    rw [Bool.not_eq_false] at hboundary
    have hmem := (mem_htmlEscape_iff (unescaped_of_isLineBoundary hboundary)).1 hc
    rw [h c hmem] at hboundary
    cases hboundary

/-- A rendered text has the lines of the template one after the other. -/
lemma renderSlackNotification_ok [Runtime] {decision : DeploymentContextDecision}
    {githubAction : ExternalActionReference} {maximum : ℕ}
    (hurl : githubAction.providerUrl = some url)
    (hrender : renderSlackNotification decision service githubAction maximum = .ok text) :
    text.toList = List.intercalate ['\n']
      ((templateLines decision.outcome service url githubAction.revision).map String.toList) := by
  unfold renderSlackNotification at hrender
  rw [hurl] at hrender
  dsimp only at hrender
  split at hrender
  · cases hrender
  cases hsplit : urlsplit url with
  | error x =>
    rw [hsplit] at hrender
    cases hrender
  | ok parsed =>
    rw [hsplit] at hrender
    dsimp only [bind, Except.bind] at hrender
    split at hrender
    · cases hrender
    split at hrender
    · cases hrender
    have htext := Except.ok.inj hrender
    rw [← htext]
    simp [templateLines, List.intercalate_cons_cons]

lemma value_plain (outcome : DecisionOutcome) :
    oneLine outcome.value.toList = true ∧ '<' ∉ outcome.value.toList := by
  cases outcome with
  | ready => decide
  | blocked => decide
  | needsHumanReview => decide

lemma revision_plain (revision : ℤ) :
    ∀ c ∈ (toString revision).toList, isLineBoundary c = false ∧ c ≠ '<' := by
  intro c hc
  have hnumeral := Reading.isNumeral_of_mem_intToString hc
  constructor
  · by_contra hboundary
    rw [Bool.not_eq_false] at hboundary
    have hnot := of_isLineBoundary (Reading.isNumeral · = false) (by decide) hboundary
    rw [hnumeral] at hnot
    cases hnot
  · rintro rfl
    revert hnumeral
    decide

/-- The service and the URL keep to their lines, and the URL to its side of the bar. -/
def Fits (service url : String) : Prop :=
  oneLine service.toList = true ∧ oneLine url.toList = true ∧ '|' ∉ url.toList

lemma templateLines_plain (h : Fits service url) :
    ∀ l ∈ (templateLines outcome service url revision).map String.toList,
      l ≠ [] ∧ ∀ c ∈ l, isLineBoundary c = false := by
  obtain ⟨hservice, hurl, -⟩ := h
  have hservice' : ∀ c ∈ (htmlEscape service false).toList, isLineBoundary c = false :=
    htmlEscape_oneLine_iff.2 (oneLine_iff.1 hservice)
  have hurl' : ∀ c ∈ (htmlEscape url).toList, isLineBoundary c = false :=
    htmlEscape_oneLine_iff.2 (oneLine_iff.1 hurl)
  have hvalue := oneLine_iff.1 (value_plain outcome).1
  have hrevision := fun c hc => (revision_plain revision c hc).1
  simp only [templateLines, List.map_cons, List.map_nil, List.forall_mem_cons,
    String.toList_append, List.forall_mem_append]
  have hplain : ∀ s ∈ ["Deployment context sync", "Decision: ", "Service: ",
      "Authoritative GitHub: <", "|deployment-context comment>", "GitHub revision: "],
      ∀ c ∈ s.toList, isLineBoundary c = false := by
    have hall : ∀ s ∈ ["Deployment context sync", "Decision: ", "Service: ",
        "Authoritative GitHub: <", "|deployment-context comment>", "GitHub revision: "],
        oneLine s.toList = true := by
      decide
    exact fun s hs => oneLine_iff.1 (hall s hs)
  simp only [List.forall_mem_cons] at hplain
  obtain ⟨hfirst, hdecision, hof, hlink, hlabel, hnumber, -⟩ := hplain
  exact ⟨⟨by decide, hfirst⟩, ⟨by simp, hdecision, hvalue⟩, ⟨by simp, hof, hservice'⟩,
    ⟨by simp, ⟨hlink, hurl'⟩, hlabel⟩, ⟨by simp, hnumber, hrevision⟩, by simp⟩

/-- The link is the only place where the text has angle brackets. -/
lemma slackLinks_template (hbar : '|' ∉ url.toList) :
    slackLinks none (List.intercalate ['\n']
      ((templateLines outcome service url revision).map String.toList)) =
      [((htmlEscape url).toList, "deployment-context comment".toList)] := by
  have hangle : ∀ {s : String} {quote : Bool}, '<' ∉ (htmlEscape s quote).toList ∧
      '>' ∉ (htmlEscape s quote).toList := by
    intro s quote
    exact ⟨angle_notMem_htmlEscape (by decide), angle_notMem_htmlEscape (by decide)⟩
  have hvalue := (value_plain outcome).2
  have hrevision : '<' ∉ (toString revision).toList :=
    fun hmem => (revision_plain revision _ hmem).2 rfl
  have hbar' : '|' ∉ (htmlEscape url).toList := by
    rw [mem_htmlEscape_iff (by decide)]
    exact hbar
  have htext : List.intercalate ['\n']
      ((templateLines outcome service url revision).map String.toList) =
      ("Deployment context sync\nDecision: ".toList ++ outcome.value.toList ++
        "\nService: ".toList ++ (htmlEscape service false).toList ++
        "\nAuthoritative GitHub: ".toList) ++ '<' ::
        (((htmlEscape url).toList ++ '|' :: "deployment-context comment".toList) ++ '>' ::
          ("\nGitHub revision: ".toList ++ (toString revision).toList)) := by
    simp [templateLines, List.intercalate_cons_cons]
  rw [htext, slackLinks_none_append, slackLinks, if_pos rfl, slackLinks_some_append, slackLinks,
    if_pos rfl, List.append_nil, List.reverse_reverse, partitionAt_append hbar']
  · rw [slackLinks_none]
    · rfl
    · rw [List.mem_append, not_or]
      exact ⟨by decide, hrevision⟩
  · simp [hangle]
  · simp [hangle, hvalue]

/-- A rendered text reads as the template, filled with what it was rendered from, where the service
and the URL fit; where they do not, its lines or its link are others. -/
theorem template_exact_iff [Runtime] (decision : DeploymentContextDecision) (service url : String)
    (githubAction : ExternalActionReference) (maximum : ℕ) (text : String)
    (hurl : githubAction.providerUrl = some url)
    (hrender : renderSlackNotification decision service githubAction maximum = .ok text) :
    (FixedTemplate decision.outcome service url githubAction.revision text ∧
      ∀ outcome' service' url' revision', FixedTemplate outcome' service' url' revision' text →
        decision.outcome = outcome' ∧ service = service' ∧ url = url' ∧
          githubAction.revision = revision') ↔ Fits service url := by
  have htext := renderSlackNotification_ok hurl hrender
  constructor
  · rintro ⟨htemplate, -⟩
    have hplain : ∀ l ∈ (templateLines decision.outcome service url
        githubAction.revision).map String.toList, ∀ c ∈ l, isLineBoundary c = false := by
      rw [← htemplate.lines]
      exact boundary_notMem_splitLines (by simp)
    simp only [templateLines, List.map_cons, List.map_nil, List.forall_mem_cons,
      String.toList_append, List.forall_mem_append] at hplain
    obtain ⟨-, -, ⟨-, hservice⟩, ⟨⟨-, htarget⟩, -⟩, -⟩ := hplain
    refine ⟨oneLine_iff.2 (htmlEscape_oneLine_iff.1 hservice),
      oneLine_iff.2 (htmlEscape_oneLine_iff.1 htarget), ?_⟩
    have hbar : '|' ∉ (htmlEscape url).toList := by
      have hlinks : ∀ item ∈ slackLinks none text.toList, '|' ∉ item.1 := bar_notMem_target
      rw [htemplate.links] at hlinks
      exact hlinks _ List.mem_cons_self
    rwa [mem_htmlEscape_iff (by decide)] at hbar
  · intro hfits
    have htemplate :
        FixedTemplate decision.outcome service url githubAction.revision text := by
      constructor
      · rw [htext]
        exact splitLines_intercalate (templateLines_plain hfits)
      · rw [htext]
        exact slackLinks_template hfits.2.2
    exact ⟨htemplate, fun _ _ _ _ h => htemplate.readBack h⟩

end Template

namespace Sample

def decided : DeploymentContextDecision where
  outcome := .ready
  reasonCodes := [.ready]
  reasons := ["Ready."]
  sourceReferences := []
  policyVersion := 3
  generatedAt := ⟨2024, 5, 6, 7, 8, 9, 0, some 0⟩

def commentUrl : String := "https://h/a/b#c-1"

def commentAction : ExternalActionReference where
  actionId := 1
  provider := .github
  operation := .upsertDeploymentContextComment
  revision := 1
  providerResourceIdentifier := some "9001"
  providerUrl := some commentUrl

def isOk {ε α : Type} : Except ε α → Bool
  | .ok _ => true
  | .error _ => false

lemma exists_of_isOk {ε α : Type} {result : Except ε α} (h : isOk result = true) :
    ∃ value, result = .ok value := by
  cases result with
  | ok value => exact ⟨value, rfl⟩
  | error x => cases h

end Sample

open Sample in
attribute [local instance] Sample.asciiHost in
/-- A message on one service at one comment reads as the template. -/
theorem template_exact_payments : ∃ text,
    renderSlackNotification decided "payments" commentAction 3000 = .ok text ∧
      FixedTemplate .ready "payments" commentUrl 1 text := by
  obtain ⟨text, htext⟩ : ∃ text,
      renderSlackNotification decided "payments" commentAction 3000 = .ok text :=
    exists_of_isOk (by decide +kernel)
  have hfits : Fits "payments" commentUrl := by
    unfold Fits
    decide
  exact ⟨text, htext, ((template_exact_iff decided "payments" commentUrl commentAction 3000 text
    rfl htext).2 hfits).1⟩

open Sample in
attribute [local instance] Sample.asciiHost in
/-- The sixth line that the limit allows is one that the service writes. -/
theorem template_broken_by_service : ¬∀ decision service (githubAction : ExternalActionReference)
    given url maximum text, providerActionUrl given = .ok url →
      githubAction.providerUrl = some url →
        renderSlackNotification decision service githubAction maximum = .ok text →
          FixedTemplate decision.outcome service url githubAction.revision text := by
  intro h
  have haccepted : providerActionUrl commentUrl = .ok commentUrl := by decide +kernel
  obtain ⟨text, htext⟩ : ∃ text,
      renderSlackNotification decided "payments\nmore" commentAction 3000 = .ok text :=
    exists_of_isOk (by decide +kernel)
  have htemplate := h decided "payments\nmore" commentAction commentUrl commentUrl 3000 text
    haccepted rfl htext
  have hlines : ∀ l ∈ splitLines [] text.toList, ∀ c ∈ l, isLineBoundary c = false :=
    boundary_notMem_splitLines (by simp)
  rw [htemplate.lines] at hlines
  have hbreak := hlines "Service: payments\nmore".toList (by decide) '\n' (by decide)
  revert hbreak
  decide

end DeploymentLab
