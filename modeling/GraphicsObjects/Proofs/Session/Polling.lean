import GraphicsObjects.Proofs.Context.Checks
import GraphicsObjects.Proofs.Session.Routines

/-!
# Polling for errors

In every session over one context, the codes that left the driver's queue are those that entered it
first, in order, each of them once. What was reported is what the checks after commands found, with
series of one finding reported once.
-/

namespace GraphicsObjects

open ContextM SessionM Request Observed

namespace Observed

/-- An operation with what the driver was asked in the course of it. -/
structure Turn where
  op : Op
  exchanges : List Exchange

namespace Turn

/-- What the checks of the operation found. -/
def findings (t : Turn) : List Finding := Observed.findings t.op.site? none t.exchanges

/-- A poll takes one code. In any other operation there is a check after each command, if errors are
checked, and nothing else takes a code. -/
structure Regular (check : Bool) (t : Turn) : Prop where
  polled : t.op.Polls → ∃ code : Enumerant, t.exchanges = [⟨.getError, code⟩]
  checked : ¬ t.op.Polls → Checked check t.op.site? t.exchanges t.findings

variable {t : Turn}

/-- Without checks nothing is found, and only a poll takes a code. -/
theorem Regular.of_unchecked (h : t.Regular false) :
    t.findings = [] ∧ (¬ t.op.Polls → ∀ x ∈ t.exchanges, x.1 ≠ .getError) := by
  by_cases hp : t.op.Polls
  · obtain ⟨code, hxs⟩ := h.polled hp
    refine ⟨?_, fun hn => absurd hp hn⟩
    rw [findings, hxs]
    rfl
  · obtain ⟨hfound, hxs⟩ := (h.checked hp).ne_getError
    exact ⟨hfound, fun _ => hxs⟩

end Turn

end Observed

namespace Session

/-- The sessions with one context over a driver in any state, and what was done in them. Codes may
enter the driver's queue before the context is made and between operations. -/
inductive Polling (config : Config) : List Turn → Session Observed → Prop where
  | start (s : Sim) {orders : List (List Nat)} :
    Polling config [] (start { sim := s } config orders)
  | adjust {history : List Turn} {s : Session Observed} (a : Adjustment)
    (h : Polling config history s) : Polling config history { s with driver := s.driver.adjust a }
  | step {history : List Turn} {s s' : Session Observed} {op : Op} {answer : op.Answer}
    (h : Polling config history s) (ho : op.IsOwn ∨ op.Polls)
    (hs : s.step op = some (answer, s')) :
    Polling config (history ++ [⟨op, s'.driver.exchanges.drop s.driver.exchanges.length⟩]) s'

variable {config : Config} {history : List Turn} {s s' : Session Observed} {op : Op}

/-- The errors of a session are accounted for. -/
structure Accounted (config : Config) (history : List Turn) (s : Session Observed) : Prop where
  home : s.AtHome
  configured : (s.enter 0).config = config
  balanced : s.driver.Balanced
  exchanges : s.driver.exchanges = history.flatMap Turn.exchanges
  regular : ∀ t ∈ history, t.Regular config.checkErrors
  told : (s.enter 0).Told ((history.flatMap Turn.findings).filterMap report?)

theorem accounted_start (s : Sim) (orders : List (List Nat)) :
    Accounted config [] (start { sim := s } config orders) :=
  ⟨atHome_start _ _ _, rfl, .start s, rfl, List.forall_mem_nil _, rfl, rfl⟩

theorem Accounted.adjust (h : Accounted config history s) (a : Adjustment) :
    Accounted config history { s with driver := s.driver.adjust a } :=
  ⟨⟨h.home.single, h.home.objects, h.home.guards, h.home.below⟩, h.configured, h.balanced.adjust a,
    h.exchanges, h.regular, h.told⟩

/-- A turn in which `xs` was asked, and what is found in `xs` was told. -/
theorem Accounted.turn (h : Accounted config history s) (xs : List Exchange) (hhome : s'.AtHome)
    (hconfig : (s'.enter 0).config = (s.enter 0).config)
    (hbalanced : s.driver.Balanced → s'.driver.Balanced)
    (hxs : s'.driver.exchanges = s.driver.exchanges ++ xs)
    (hregular : (⟨op, xs⟩ : Turn).Regular config.checkErrors)
    (htold : ∀ reports, (s.enter 0).Told reports →
      (s'.enter 0).Told (reports ++ (⟨op, xs⟩ : Turn).findings.filterMap report?)) :
    Accounted config (history ++ [⟨op, s'.driver.exchanges.drop s.driver.exchanges.length⟩]) s' := by
  rw [hxs, List.drop_left]
  refine ⟨hhome, hconfig.trans h.configured, hbalanced h.balanced, ?_, ?_, ?_⟩
  · rw [hxs, h.exchanges, List.flatMap_append, List.flatMap_singleton]
  · exact List.forall_mem_append.mpr ⟨h.regular, List.forall_mem_singleton.mpr hregular⟩
  · rw [List.flatMap_append, List.flatMap_singleton, List.filterMap_append]
    exact htold _ h.told

theorem Accounted.own (h : Accounted config history s) (ho : op.IsOwn) {answer : op.Answer}
    (hs : s.step op = some (answer, s')) :
    Accounted config (history ++ [⟨op, s'.driver.exchanges.drop s.driver.exchanges.length⟩]) s' := by
  have hpasses := h.home.step ho hs
  obtain ⟨act, hact, he⟩ := hpasses.work
  have hwatches : (s.enter 0).Watches op.site? (s'.enter 0) :=
    he ▸ watches_routine hact (fun q at? hq => hq.2) (s.enter 0)
  obtain ⟨xs, found, hxs, hchecked, htold⟩ := hwatches.checks
  have hfound : (⟨op, xs⟩ : Turn).findings = found := hchecked.findings_eq none
  refine h.turn xs hpasses.home hwatches.config hwatches.balanced hxs
    ⟨fun hp => absurd hp ho.not_polls, fun _ => ?_⟩ fun reports ht => ?_
  · rw [hfound, ← h.configured]
    exact hchecked
  · rw [hfound]
    exact htold reports ht

theorem Accounted.poll (h : Accounted config history s) (hp : op.Polls) {answer : op.Answer}
    (hs : s.step op = some (answer, s')) :
    Accounted config (history ++ [⟨op, s'.driver.exchanges.drop s.driver.exchanges.length⟩]) s' := by
  obtain ⟨hpasses, henter⟩ := h.home.poll hp hs
  have hdriver : s'.driver = (Driver.perform .getError s.driver).driver :=
    congrArg Context.driver henter
  refine h.turn [⟨.getError, (ContextM.perform .getError (s.enter 0)).1⟩] hpasses.home
    (congrArg (·.config) henter) (fun hb => hdriver ▸ hb.perform .getError)
    (congrArg Observed.exchanges hdriver) ⟨fun _ => ⟨_, rfl⟩, fun hn => absurd hp hn⟩
    fun reports ht => ?_
  rw [henter]
  exact (List.append_nil reports).symm ▸ told_perform .getError ht

theorem Polling.accounted (h : Polling config history s) : Accounted config history s := by
  induction h with
  | start s => exact accounted_start s _
  | adjust a _ ih => exact ih.adjust a
  | step _ ho hs ih => exact ho.elim (fun ho => ih.own ho hs) fun hp => ih.poll hp hs

/-- What entered the queue of the driver was taken out of it in order, by checks and by polls, up to
what is still in the queue. A poll takes one code, a check takes one code, and there is a check after
each command if errors are checked, and none otherwise. The errors that checks found are reported in
order, with the operation, where the check that found something before found another one. -/
theorem errors_are_accounted (h : Polling config history s) :
    s.driver.exchanges = history.flatMap Turn.exchanges ∧
    ofErrors s.driver.entered = taken s.driver.exchanges ++ ofErrors s.driver.sim.errors ∧
    (∀ t ∈ history, t.Regular config.checkErrors) ∧
    s.trace.filterMap Event.report? =
      ((history.flatMap Turn.findings).filterMap report?).destutter (· ≠ ·) ∧
    (config.checkErrors = false →
      (∀ t ∈ history, ¬ t.op.Polls → ∀ x ∈ t.exchanges, x.1 ≠ .getError) ∧
      s.trace.filterMap Event.report? = []) := by
  have ha := h.accounted
  refine ⟨ha.exchanges, ha.balanced, ha.regular, ha.told.2, fun hc => ?_⟩
  have hunchecked (t : Turn) (ht : t ∈ history) := (hc ▸ ha.regular t ht).of_unchecked
  refine ⟨fun t ht => (hunchecked t ht).2, ?_⟩
  have hfound : history.flatMap Turn.findings = [] :=
    List.flatMap_eq_nil_iff.mpr fun t ht => (hunchecked t ht).1
  rw [show s.trace.filterMap Event.report? = _ from ha.told.2, hfound]
  rfl

/-! ## A run -/

/-- What happens one after the other: something in the driver, or an operation of the client. -/
def happen (history : List Turn) (s : Session Observed) :
    List (Adjustment ⊕ Op) → Option (List Turn × Session Observed)
  | [] => some (history, s)
  | .inl a :: is => happen history { s with driver := s.driver.adjust a } is
  | .inr op :: is => do
    let (_, s') ← s.step op
    s'.happen (history ++ [⟨op, s'.driver.exchanges.drop s.driver.exchanges.length⟩]) is

theorem Polling.happen {is : List (Adjustment ⊕ Op)} {history' : List Turn}
    (h : Polling config history s) (ho : ∀ op, .inr op ∈ is → op.IsOwn ∨ op.Polls)
    (hs : s.happen history is = some (history', s')) : Polling config history' s' := by
  induction is generalizing history s with
  | nil =>
      cases hs
      exact h
  | cons i is ih =>
      have ho' (op : Op) (hm : .inr op ∈ is) := ho op (List.mem_cons_of_mem _ hm)
      cases i with
      | inl a => exact ih (h.adjust a) ho' hs
      | inr op =>
          simp only [Session.happen, Option.bind_eq_bind, Option.bind_eq_some_iff] at hs
          obtain ⟨⟨answer, s₁⟩, hstep, hs⟩ := hs
          exact ih (h.step (ho op List.mem_cons_self) hstep) ho' hs

/-- Errors enter the queue while a client sets the viewport again and again. -/
def seriesOfErrors : List (Adjustment ⊕ Op) :=
  let viewport : Adjustment ⊕ Op := .inr (.context 0 (.viewport 0 0 4 4))
  [.inl (.raise Enumerant.invalidEnum), .inl (.raise Enumerant.invalidEnum),
    .inl (.raise Enumerant.outOfMemory), .inl (.raise Enumerant.invalidValue), viewport, viewport,
    .inr (.context 0 .pollError), viewport, viewport, .inl (.raise Enumerant.invalidValue), viewport,
    .inl (.raise Enumerant.invalidValue), .inr (.context 0 (.clear .all)),
    .inl (.raise Enumerant.invalidValue)]

/-- One error is found by two checks, and another one by two checks with one between them that finds
none; each is reported once, and once more in another operation. -/
theorem seriesOfErrors_accounted : ∃ history s,
    (start { sim := .fresh } { checkErrors := true }).happen [] seriesOfErrors = some (history, s) ∧
    ofErrors s.driver.entered = taken s.driver.exchanges ++ [Enumerant.invalidValue] ∧
    history.flatMap Turn.findings =
      [(.settingViewport, Enumerant.invalidEnum), (.settingViewport, Enumerant.invalidEnum),
        (.settingViewport, Enumerant.invalidValue), (.settingViewport, Enumerant.noError),
        (.settingViewport, Enumerant.invalidValue), (.clearing, Enumerant.invalidValue)] ∧
    s.trace.filterMap Event.report? =
      [(.invalidEnum, .settingViewport), (.invalidValue, .settingViewport),
        (.invalidValue, .clearing)] := by
  have hfound : ((start { sim := .fresh } { checkErrors := true }).happen [] seriesOfErrors).map
      (fun x => (x.1.flatMap Turn.findings, ofErrors x.2.driver.sim.errors)) =
        some ([(.settingViewport, Enumerant.invalidEnum), (.settingViewport, Enumerant.invalidEnum),
          (.settingViewport, Enumerant.invalidValue), (.settingViewport, Enumerant.noError),
          (.settingViewport, Enumerant.invalidValue), (.clearing, Enumerant.invalidValue)],
        [Enumerant.invalidValue]) := by decide +kernel
  obtain ⟨⟨history, s⟩, hs, he⟩ := Option.map_eq_some_iff.mp hfound
  obtain ⟨hfindings, hpending⟩ := Prod.mk.inj he
  have hown (op : Op) (hm : .inr op ∈ seriesOfErrors) : op.IsOwn ∨ op.Polls := by
    simp only [seriesOfErrors, List.mem_cons, reduceCtorEq, Sum.inr.injEq, List.not_mem_nil,
      or_false, false_or] at hm
    rcases hm with rfl | rfl | rfl | rfl | rfl | rfl | rfl
    all_goals first | exact .inl trivial | exact .inr trivial
  obtain ⟨-, hentered, -, hreported, -⟩ :=
    errors_are_accounted (Polling.happen (.start .fresh) hown hs)
  refine ⟨history, s, hs, hpending ▸ hentered, hfindings, ?_⟩
  rw [hreported, hfindings]
  decide +kernel

end Session

end GraphicsObjects
