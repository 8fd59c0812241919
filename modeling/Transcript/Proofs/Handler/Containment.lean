import Transcript.Proofs.Message.Made
import Transcript.Proofs.Message.Noted
import Transcript.Proofs.Tap.Offers

/-! Failures of a gateway are contained. Whatever a handler is asked for, and whenever its gateway
fails, its callers and the gateway itself see what they would see if the gateway never failed; each
failure is noted once. -/

namespace Transcript

variable {σ τ : Type}

/-- What a handler may be asked for: to record a request, to record an event or whatever is given
in place of one, and to hand on a batch as it is. -/
inductive Errand where
  | saveRequest (origin : Origin) (identity : Identity) (turns : List Message.Outgoing)
  | saveItem (origin : Origin) (identity : Identity) (item : Item)
  | append (batch : List Message) (identity : Identity)

namespace Errand

def perform (gateway : Gateway σ) (office : Office σ) : Errand → Except Fault Unit × Office σ
  | .saveRequest origin identity turns => gateway.saveRequest origin identity turns office
  | .saveItem origin identity item => gateway.saveItem origin identity item office
  | .append batch identity => (.ok (), gateway.offer batch identity office)

def performAll (gateway : Gateway σ) : List Errand → Office σ → List (Except Fault Unit) × Office σ
  | [], office => ([], office)
  | errand :: rest, office =>
    let (outcome, office) := errand.perform gateway office
    let (outcomes, office) := performAll gateway rest office
    (outcome :: outcomes, office)

/-- The batch that an errand comes to, if it comes to any, with its identity. -/
def work : Errand → Recording (Option (List Message × Identity))
  | .saveRequest origin identity turns =>
    (fun batch => if batch.isEmpty then none else some (batch, identity)) <$>
      Message.ofTurns origin identity turns
  | .saveItem origin identity item =>
    (fun made => made.map fun message => ([message], identity)) <$>
      item.message origin identity.checkpointId
  | .append batch identity => pure (some (batch, identity))

/-- Errands that come to no batch: a request without turns, and a control event. -/
inductive IsSilent : Errand → Prop where
  | request (origin : Origin) (identity : Identity) : IsSilent (.saveRequest origin identity [])
  | control {item : Item} (control : item.isControl = true) (origin : Origin)
      (identity : Identity) : IsSilent (.saveItem origin identity item)

/-- An errand is done by its work, and by an offer where the work comes to a batch. -/
theorem perform_eq (gateway : Gateway σ) (office : Office σ) (errand : Errand) :
    errand.perform gateway office = match errand.work.result office.desk with
      | (.error fault, desk) => (.error fault, { office with desk })
      | (.ok none, desk) => (.ok (), { office with desk })
      | (.ok (some (batch, identity)), desk) =>
        (.ok (), gateway.offer batch identity { office with desk }) := by
  cases errand with
  | saveRequest origin identity turns =>
    simp only [perform, Gateway.saveRequest, work, Office.perform_eq, Recording.result_map]
    rcases (Message.ofTurns origin identity turns).result office.desk with ⟨outcome, desk⟩
    match outcome with
    | .ok [] | .ok (_ :: _) | .error _ => rfl
  | saveItem origin identity item =>
    simp only [perform, Gateway.saveItem, work, Office.perform_eq, Recording.result_map]
    rcases (item.message origin identity.checkpointId).result office.desk with ⟨outcome, desk⟩
    match outcome with
    | .ok none | .ok (some _) | .error _ => rfl
  | append batch identity => rfl

theorem discreet_work (errand : Errand) : errand.work.Discreet := by
  cases errand with
  | saveRequest origin identity turns => exact (Message.discreet_ofTurns _ _ _).map _
  | saveItem origin identity item => exact (item.discreet_message _ _).map _
  | append batch identity => exact .pure _

theorem notes_work (errand : Errand) : errand.work.NotesUnwritable := by
  cases errand with
  | saveRequest origin identity turns => exact (Message.notes_ofTurns _ _ _).map _
  | saveItem origin identity item => exact (item.notes_message _ _).map _
  | append batch identity => exact .pure _

theorem IsSilent.perform {errand : Errand} (silent : errand.IsSilent) (gateway : Gateway σ)
    (office : Office σ) : errand.perform gateway office = (.ok (), office) := by
  cases silent with
  | request => rfl
  | control control origin identity =>
    rw [perform_eq, work, Item.message_control control]
    rfl

/-- Only a batch that was empty when it was handed on is empty. -/
theorem yields_work (errand : Errand) : errand.work.Yields fun made =>
    ∀ identity, made = some ([], identity) → errand = .append [] identity := by
  cases errand with
  | saveRequest origin other turns =>
    refine (Recording.Yields.any _).map fun batch _ identity same => ?_
    cases batch <;> cases same
  | saveItem origin other item =>
    refine (Recording.Yields.any _).map fun made _ identity same => ?_
    cases made <;> cases same
  | append batch other =>
    refine .pure fun identity same => ?_
    cases same
    rfl

end Errand

/-- One offer to a gateway, with what the gateway failed with, if it failed. -/
structure Offer where
  batch : List Message
  identity : Identity
  complaint : Option String

def Offer.content (offer : Offer) : List Message × Identity := (offer.batch, offer.identity)

/-- The failure that an offer met. -/
def Offer.failure? (offer : Offer) : Option (Identity × String) :=
  offer.complaint.map fun cause => (offer.identity, cause)

/-- A gateway that works as another one, with a list of the offers that it gets. -/
def Gateway.observed (gateway : Gateway σ) : Gateway (σ × List Offer) where
  enabled := gateway.enabled
  append batch identity office :=
    let (complaint, after) := gateway.append batch identity ⟨office.desk, office.store.1⟩
    (complaint, ⟨after.desk, after.store, office.store.2 ++ [⟨batch, identity, complaint⟩]⟩)

/-- The office that the observed gateway itself sees. -/
def Office.unobserved (office : Office (σ × List Offer)) : Office σ := ⟨office.desk, office.store.1⟩

@[simp] theorem Office.unobserved_desk (office : Office (σ × List Offer)) :
    office.unobserved.desk = office.desk := rfl

/-- An office whose gateway is observed, and has not been offered anything yet. -/
def Office.observed (office : Office σ) : Office (σ × List Offer) :=
  ⟨office.desk, office.store, []⟩

def Notice.failure? : Notice → Option (Identity × String)
  | .gatewayFailed identity cause => some (identity, cause)
  | _ => none

def Desk.failures (desk : Desk) : List (Identity × String) := desk.notices.filterMap Notice.failure?

theorem Desk.failures_note (desk : Desk) (notice : Notice) :
    (desk.note notice).failures = desk.failures ++ notice.failure?.toList := by
  cases found : notice.failure? <;> simp [failures, note, found]

theorem Notice.TellsUnwritable.failure? {notice : Notice} (tells : notice.TellsUnwritable) :
    notice.failure? = none := by
  cases tells <;> rfl

theorem Errand.failures_work (errand : Errand) (desk : Desk) :
    (errand.work.result desk).2.failures = desk.failures := by
  obtain ⟨more, grown, tells⟩ := errand.notes_work desk
  rw [Desk.failures, grown, List.filterMap_append,
    List.filterMap_eq_nil_iff.mpr fun notice member => (tells notice member).failure?,
    List.append_nil, Desk.failures]

/-- A gateway that leaves to its handler what is the handler's: it issues no identifiers, and does
not note its own failures in place of the handler. -/
structure Gateway.IsSeparate (gateway : Gateway σ) : Prop where
  issued : ∀ batch identity office,
    (gateway.append batch identity office).2.desk.issued = office.desk.issued
  failures : ∀ batch identity office,
    (gateway.append batch identity office).2.desk.failures = office.desk.failures

namespace Gateway

variable {gateway : Gateway σ}

theorem observed_append (gateway : Gateway σ) (batch : List Message) (identity : Identity)
    (office : Office (σ × List Offer)) :
    gateway.observed.append batch identity office =
      ((gateway.append batch identity office.unobserved).1,
        ⟨(gateway.append batch identity office.unobserved).2.desk,
          (gateway.append batch identity office.unobserved).2.store,
          office.store.2 ++
            [⟨batch, identity, (gateway.append batch identity office.unobserved).1⟩]⟩) := rfl

theorem offer_unobserved (gateway : Gateway σ) (batch : List Message) (identity : Identity)
    (office : Office (σ × List Offer)) :
    (gateway.observed.offer batch identity office).unobserved =
      gateway.offer batch identity office.unobserved := by
  unfold offer
  rw [observed_append]
  rcases gateway.append batch identity office.unobserved with ⟨complaint, after⟩
  cases complaint <;> rfl

/-- An offer to an observed gateway is listed, and its failure is noted once. -/
theorem offer_observed (separate : gateway.IsSeparate) (batch : List Message) (identity : Identity)
    (office : Office (σ × List Offer)) : ∃ complaint,
    (gateway.observed.offer batch identity office).store.2 =
        office.store.2 ++ [⟨batch, identity, complaint⟩] ∧
      (gateway.observed.offer batch identity office).desk.issued = office.desk.issued ∧
      (gateway.observed.offer batch identity office).desk.failures =
        office.desk.failures ++ (Offer.failure? ⟨batch, identity, complaint⟩).toList := by
  have issued := separate.issued batch identity office.unobserved
  have failures := separate.failures batch identity office.unobserved
  unfold offer
  rw [observed_append]
  rcases reached : gateway.append batch identity office.unobserved with ⟨complaint, after⟩
  rw [reached] at issued failures
  cases complaint with
  | none => exact ⟨none, rfl, issued, failures.trans (List.append_nil _).symm⟩
  | some cause =>
    refine ⟨some cause, rfl, issued, ?_⟩
    exact (Desk.failures_note _ _).trans (congrArg (· ++ _) failures)

end Gateway

namespace Errand

variable {gateway : Gateway σ} {other : Gateway τ}

theorem perform_unobserved (gateway : Gateway σ) (errand : Errand)
    (office : Office (σ × List Offer)) :
    errand.perform gateway office.unobserved = ((errand.perform gateway.observed office).1,
      (errand.perform gateway.observed office).2.unobserved) := by
  rw [perform_eq, perform_eq, Office.unobserved_desk]
  rcases errand.work.result office.desk with ⟨outcome, desk⟩
  match outcome with
  | .error _ | .ok none => rfl
  | .ok (some (batch, identity)) =>
    exact congrArg _ (gateway.offer_unobserved batch identity { office with desk }).symm

/-- One errand adds no offer or one, and notes its failure. -/
theorem perform_listed (separate : gateway.IsSeparate) (errand : Errand)
    (office : Office (σ × List Offer)) : ∃ more : List Offer,
    (errand.perform gateway.observed office).2.store.2 = office.store.2 ++ more ∧
      (errand.perform gateway.observed office).2.desk.failures =
        office.desk.failures ++ more.filterMap Offer.failure? ∧
      ∀ offer ∈ more, offer.batch = [] → errand = .append [] offer.identity := by
  have failures := errand.failures_work office.desk
  have yields := errand.yields_work office.desk
  rw [perform_eq]
  rcases reached : errand.work.result office.desk with ⟨outcome, desk⟩
  rw [reached] at failures yields
  match outcome with
  | .error _ => exact ⟨[], (List.append_nil _).symm, by simpa using failures, nofun⟩
  | .ok none => exact ⟨[], (List.append_nil _).symm, by simpa using failures, nofun⟩
  | .ok (some (batch, identity)) =>
    obtain ⟨complaint, listed, _, noted⟩ :=
      gateway.offer_observed separate batch identity { office with desk }
    refine ⟨[⟨batch, identity, complaint⟩], listed, ?_, ?_⟩
    · refine noted.trans (congr (congrArg _ failures) ?_)
      cases complaint <;> rfl
    · intro offer member empty
      cases List.mem_singleton.mp member
      cases (show batch = [] from empty)
      exact yields _ rfl identity rfl

/-- Offices that have issued as many identifiers, and whose gateways have been offered the same. -/
structure Alike (left : Office (σ × List Offer)) (right : Office (τ × List Offer)) : Prop where
  issued : left.desk.issued = right.desk.issued
  offered : left.store.2.map Offer.content = right.store.2.map Offer.content

/-- Whether gateways fail makes no difference between alike offices. -/
theorem perform_alike (separate : gateway.IsSeparate) (also : other.IsSeparate) (errand : Errand)
    {left : Office (σ × List Offer)} {right : Office (τ × List Offer)} (alike : Alike left right) :
    (errand.perform gateway.observed left).1 = (errand.perform other.observed right).1 ∧
      Alike (errand.perform gateway.observed left).2 (errand.perform other.observed right).2 := by
  obtain ⟨same, issued⟩ := errand.discreet_work.byIssued left.desk right.desk alike.issued
  rw [perform_eq, perform_eq]
  rcases reached : errand.work.result left.desk with ⟨outcome, desk⟩
  rcases reachedRight : errand.work.result right.desk with ⟨outcomeRight, deskRight⟩
  rw [reached, reachedRight] at same issued
  cases (show outcome = outcomeRight from same)
  match outcome with
  | .error _ | .ok none => exact ⟨rfl, issued, alike.offered⟩
  | .ok (some (batch, identity)) =>
    obtain ⟨_, listed, kept, _⟩ :=
      gateway.offer_observed separate batch identity { left with desk }
    obtain ⟨_, listedRight, keptRight, _⟩ :=
      other.offer_observed also batch identity { right with desk := deskRight }
    refine ⟨rfl, kept.trans (issued.trans keptRight.symm), ?_⟩
    rw [listed, listedRight, List.map_append, List.map_append, alike.offered]
    rfl

theorem performAll_unobserved (gateway : Gateway σ) (errands : List Errand)
    (office : Office (σ × List Offer)) :
    performAll gateway errands office.unobserved = ((performAll gateway.observed errands office).1,
      (performAll gateway.observed errands office).2.unobserved) := by
  induction errands generalizing office with
  | nil => rfl
  | cons errand rest ih => simp only [performAll, perform_unobserved, ih]

theorem performAll_listed (separate : gateway.IsSeparate) (errands : List Errand)
    (office : Office (σ × List Offer)) : ∃ more : List Offer,
    (performAll gateway.observed errands office).2.store.2 = office.store.2 ++ more ∧
      (performAll gateway.observed errands office).2.desk.failures =
        office.desk.failures ++ more.filterMap Offer.failure? ∧
      ∀ offer ∈ more, offer.batch = [] → .append [] offer.identity ∈ errands := by
  induction errands generalizing office with
  | nil => exact ⟨[], (List.append_nil _).symm, (List.append_nil _).symm, nofun⟩
  | cons errand rest ih =>
    obtain ⟨here, listed, noted, only⟩ := perform_listed separate errand office
    obtain ⟨later, grown, alsoNoted, onlyLater⟩ := ih (errand.perform gateway.observed office).2
    refine ⟨here ++ later, ?_, ?_, fun offer member empty => ?_⟩
    · simp only [performAll, grown, listed, List.append_assoc]
    · simp only [performAll, alsoNoted, noted, List.filterMap_append, List.append_assoc]
    · rcases List.mem_append.mp member with first | second
      · exact only offer first empty ▸ List.mem_cons_self
      · exact List.mem_cons_of_mem _ (onlyLater offer second empty)

theorem performAll_alike (separate : gateway.IsSeparate) (also : other.IsSeparate)
    (errands : List Errand) {left : Office (σ × List Offer)} {right : Office (τ × List Offer)}
    (alike : Alike left right) :
    (performAll gateway.observed errands left).1 = (performAll other.observed errands right).1 ∧
      Alike (performAll gateway.observed errands left).2
        (performAll other.observed errands right).2 := by
  induction errands generalizing left right with
  | nil => exact ⟨rfl, alike⟩
  | cons errand rest ih =>
    obtain ⟨outcome, further⟩ := perform_alike separate also errand alike
    obtain ⟨outcomes, last⟩ := ih further
    exact ⟨congr (congrArg _ outcome) outcomes, last⟩

end Errand

/-- What the failures of a gateway come to, next to another gateway that may never fail. -/
structure ContainsFailures (gateway : Gateway σ) (other : Gateway τ) (errands : List Errand)
    (office : Office σ) (otherOffice : Office τ) : Prop where
  /-- Every caller gets to know the same. -/
  outcomes : (Errand.performAll gateway errands office).1 =
    (Errand.performAll other errands otherOffice).1
  /-- The gateway is offered the same batches under the same identities. -/
  offers :
    (Errand.performAll gateway.observed errands office.observed).2.store.2.map Offer.content =
      (Errand.performAll other.observed errands otherOffice.observed).2.store.2.map Offer.content
  /-- The offers are those of the gateway itself, which does not see that it is observed. -/
  unseen : Errand.performAll gateway errands office =
    ((Errand.performAll gateway.observed errands office.observed).1,
      (Errand.performAll gateway.observed errands office.observed).2.unobserved)
  /-- Every offer that failed is noted once, in order, and as an error. -/
  noted : (Errand.performAll gateway errands office).2.desk.failures = office.desk.failures ++
      (Errand.performAll gateway.observed errands office.observed).2.store.2.filterMap
        Offer.failure? ∧
    ∀ notice : Notice, notice.failure? ≠ none → notice.level = .error
  /-- A request without turns and a control event leave the gateway alone. -/
  silent : ∀ {errand : Errand}, errand.IsSilent → ∀ now : Office σ,
    errand.perform gateway now = (.ok (), now)
  /-- Nothing empty is offered that was not handed on as it is. -/
  nonempty : ∀ offer ∈ (Errand.performAll gateway.observed errands office.observed).2.store.2,
    offer.batch = [] → .append [] offer.identity ∈ errands

/-- The failures of a gateway are contained. Two handlers that run the same errands over gateways
of any sort, of which each may fail whenever it likes, tell their callers the same and offer the
same batches in the same order; in particular, one whose gateway fails now and then behaves as if
it never did. Each failure is noted once, and nothing is offered for a request without turns or
for a control event. -/
theorem gateway_failures_are_contained {gateway : Gateway σ} {other : Gateway τ}
    (separate : gateway.IsSeparate) (also : other.IsSeparate) (errands : List Errand)
    {office : Office σ} {otherOffice : Office τ}
    (issued : office.desk.issued = otherOffice.desk.issued) :
    ContainsFailures gateway other errands office otherOffice := by
  have alike : Errand.Alike office.observed otherOffice.observed := ⟨issued, rfl⟩
  obtain ⟨outcomes, last⟩ := Errand.performAll_alike separate also errands alike
  obtain ⟨more, listed, noted, empty⟩ :=
    Errand.performAll_listed separate errands office.observed
  have unseen := Errand.performAll_unobserved gateway errands office.observed
  have unseenOther := Errand.performAll_unobserved other errands otherOffice.observed
  replace listed := listed.trans (List.nil_append more)
  refine ⟨?_, last.offered, unseen, ⟨?_, ?_⟩, fun silent now => silent.perform gateway now, ?_⟩
  · exact (congrArg Prod.fst unseen).trans (outcomes.trans (congrArg Prod.fst unseenOther).symm)
  · rw [listed]
    exact (congrArg (fun result => result.2.desk.failures) unseen).trans noted
  · intro notice told
    cases notice <;> first | rfl | exact absurd rfl told
  · rw [listed]
    exact empty

/-- A gateway that fails at every second offer. -/
def faltering : Gateway Nat where
  enabled := true
  append _ _ office :=
    (if office.store % 2 = 1 then some "down" else none, { office with store := office.store + 1 })

/-- An empty batch, an answer, something that is no event, a request without turns, and the empty
batch again. -/
def assortedErrands : List Errand :=
  let identity := Identity.ofTexts "t" "p" "s" ""
  let origin : Origin := { agent := .null, request := none, model := .ofTexts "m" none }
  [.append [] identity, .saveItem origin identity (.event (.text "hi")),
    .saveItem origin identity (.other .null), .saveRequest origin identity [],
    .append [] identity]

theorem gateway_failures_are_contained_faltering :
    ((Errand.performAll faltering assortedErrands ⟨{}, 0⟩).1.map Except.isOk) =
        [true, true, false, true, true] ∧
      (Errand.performAll faltering assortedErrands ⟨{}, 0⟩).1 =
        (Errand.performAll (.keeping none) assortedErrands ⟨{}, {}⟩).1 ∧
      (Errand.performAll faltering assortedErrands ⟨{}, 0⟩).2.desk.failures =
        [(.ofTexts "t" "p" "s" "", "down")] ∧
      ContainsFailures faltering (.keeping none) assortedErrands ⟨{}, 0⟩ ⟨{}, {}⟩ := by
  have separate : faltering.IsSeparate := ⟨fun _ _ _ => rfl, fun _ _ _ => rfl⟩
  have also : (Gateway.keeping none).IsSeparate := ⟨fun _ _ _ => rfl, fun _ _ _ => rfl⟩
  have contains : ContainsFailures faltering (.keeping none) assortedErrands ⟨{}, 0⟩ ⟨{}, {}⟩ :=
    gateway_failures_are_contained separate also assortedErrands rfl
  exact ⟨rfl, contains.outcomes, contains.noted.1.trans rfl, contains⟩

end Transcript
