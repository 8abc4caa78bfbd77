import Mathlib.Data.List.Destutter
import GraphicsObjects.Proofs.Context.Routines
import GraphicsObjects.Proofs.Simulation.Observed

/-!
# Checks for errors

After each command a context that checks errors takes one code out of the queue of the driver, and
nothing else takes any. What the checks find is reported, but for what was found by the check that
found something last.
-/

namespace GraphicsObjects

open Simulation Request

namespace Observed

/-! ## Checks among the requests -/

/-- What a check found: where it was made, and the code that it took, 0 if there was none. -/
abbrev Finding := Site × Enumerant

/-- The findings of the checks among requests. A check is made where a code is taken directly after
a command; `site?` says where commands are said to have been issued. -/
def findings (site? : Request → Option Site) : (last : Option Site) → List Exchange → List Finding
  | _, [] => []
  | last, ⟨.getError, code⟩ :: xs => last.toList.map (·, code) ++ findings site? none xs
  | _, ⟨q, _⟩ :: xs => findings site? (site? q) xs

/-- If errors are checked, one code is taken after each command. No other code is taken. -/
inductive Checked (check : Bool) (site? : Request → Option Site) :
    List Exchange → List Finding → Prop where
  | nil : Checked check site? [] []
  | query {q : Request} {a : q.Answer} {xs : List Exchange} {found : List Finding}
    (hq : q ≠ .getError) (hsite : site? q = none) (h : Checked check site? xs found) :
    Checked check site? (⟨q, a⟩ :: xs) found
  | checked {q : Request} {a : q.Answer} {site : Site} {code : Enumerant} {xs : List Exchange}
    {found : List Finding} (hq : q ≠ .getError) (hsite : site? q = some site) (hc : check = true)
    (h : Checked check site? xs found) :
    Checked check site? (⟨q, a⟩ :: ⟨.getError, code⟩ :: xs) ((site, code) :: found)
  | unchecked {q : Request} {a : q.Answer} {site : Site} {xs : List Exchange}
    {found : List Finding} (hq : q ≠ .getError) (hsite : site? q = some site) (hc : check = false)
    (h : Checked check site? xs found) : Checked check site? (⟨q, a⟩ :: xs) found

variable {check : Bool} {site? : Request → Option Site} {xs ys : List Exchange}
variable {found found' : List Finding}

theorem Checked.append (h : Checked check site? xs found) (h' : Checked check site? ys found') :
    Checked check site? (xs ++ ys) (found ++ found') := by
  induction h with
  | nil => exact h'
  | query hq hsite _ ih => exact .query hq hsite ih
  | checked hq hsite hc _ ih => exact .checked hq hsite hc ih
  | unchecked hq hsite hc _ ih => exact .unchecked hq hsite hc ih

theorem findings_cons {q : Request} (hq : q ≠ .getError) (a : q.Answer) (last : Option Site)
    (xs : List Exchange) :
    findings site? last (⟨q, a⟩ :: xs) = findings site? (site? q) xs := by
  cases q with
  | getError => exact absurd rfl hq
  | _ => rfl

theorem findings_getError (last : Option Site) (code : Enumerant) (xs : List Exchange) :
    findings site? last (⟨.getError, code⟩ :: xs) =
      last.toList.map (·, code) ++ findings site? none xs := rfl

theorem Checked.findings_eq (h : Checked check site? xs found) (last : Option Site) :
    findings site? last xs = found := by
  induction h generalizing last with
  | nil => rfl
  | query hq _ _ ih =>
      rw [findings_cons hq]
      exact ih _
  | checked hq hsite _ _ ih =>
      rw [findings_cons hq, hsite, findings_getError, ih none]
      rfl
  | unchecked hq _ _ _ ih =>
      rw [findings_cons hq]
      exact ih _

/-- Without checks no code is taken. -/
theorem Checked.ne_getError (h : Checked false site? xs found) :
    found = [] ∧ ∀ x ∈ xs, x.1 ≠ .getError := by
  induction h with
  | nil => exact ⟨rfl, List.forall_mem_nil _⟩
  | query hq _ _ ih => exact ⟨ih.1, List.forall_mem_cons.mpr ⟨hq, ih.2⟩⟩
  | checked _ _ hc => cases hc
  | unchecked hq _ _ _ ih => exact ⟨ih.1, List.forall_mem_cons.mpr ⟨hq, ih.2⟩⟩

/-! ## Reports -/

/-- What a check has to report, if it took the code of an error. -/
def report? (finding : Finding) : Option Report :=
  (DriverError.ofCode? finding.2).map (·, finding.1)

/-- A list to which an element is added, with repetitions collapsed. -/
theorem destutter_concat {α : Type} [DecidableEq α] (xs : List α) (x : α) :
    (xs ++ [x]).destutter (· ≠ ·) =
      if xs.getLast? = some x then xs.destutter (· ≠ ·) else xs.destutter (· ≠ ·) ++ [x] := by
  have hcons (y : α) (ys : List α) : (ys ++ [x]).destutter' (· ≠ ·) y =
      if ys.getLastD y = x then ys.destutter' (· ≠ ·) y else ys.destutter' (· ≠ ·) y ++ [x] := by
    induction ys generalizing y with
    | nil => by_cases h : y = x <;> simp [h]
    | cons z zs ih =>
        rw [List.cons_append, List.getLastD_cons]
        by_cases h : y = z
        · subst h
          rw [List.destutter'_cons_neg _ (by simp), List.destutter'_cons_neg _ (by simp), ih]
        · rw [List.destutter'_cons_pos _ h, List.destutter'_cons_pos _ h, ih]
          split <;> rfl
  cases xs with
  | nil => rfl
  | cons y ys =>
      rw [List.cons_append, List.destutter_cons', List.destutter_cons', hcons,
        List.getLast?_cons, ← List.getLastD_eq_getLast?]
      simp only [Option.some.injEq]

end Observed

variable {c c' c'' : Context Observed} {q : Request} {site : Site}
variable {site? : Request → Option Site}

open Observed

/-- The context has reported these, repetitions once, and it remembers the last. -/
def Context.Told (c : Context Observed) (reports : List Report) : Prop :=
  c.lastError = reports.getLast? ∧ c.trace.filterMap Event.report? = reports.destutter (· ≠ ·)

/-- What a context does to its driver's queue of errors, and what it reports. -/
structure Context.Watches (site? : Request → Option Site) (c c' : Context Observed) : Prop where
  config : c'.config = c.config
  balanced : c.driver.Balanced → c'.driver.Balanced
  checks : ∃ xs found, c'.driver.exchanges = c.driver.exchanges ++ xs ∧
    Checked c.config.checkErrors site? xs found ∧
    ∀ reports, c.Told reports → c'.Told (reports ++ found.filterMap report?)

namespace Context

theorem Watches.trans (h : c.Watches site? c') (h' : c'.Watches site? c'') :
    c.Watches site? c'' where
  config := h'.config.trans h.config
  balanced hb := h'.balanced (h.balanced hb)
  checks := by
    obtain ⟨xs, found, hxs, hchecked, htold⟩ := h.checks
    obtain ⟨ys, found', hys, hchecked', htold'⟩ := h'.checks
    rw [h.config] at hchecked'
    refine ⟨xs ++ ys, found ++ found', ?_, hchecked.append hchecked', fun reports hr => ?_⟩
    · rw [hys, hxs, List.append_assoc]
    · rw [List.filterMap_append, ← List.append_assoc]
      exact htold' _ (htold _ hr)

/-- Nothing is asked and nothing is reported. -/
structure Quiet (c c' : Context Observed) : Prop where
  config : c'.config = c.config
  driver : c'.driver = c.driver
  lastError : c'.lastError = c.lastError
  reports : c'.trace.filterMap Event.report? = c.trace.filterMap Event.report?

theorem Quiet.refl (c : Context Observed) : c.Quiet c := ⟨rfl, rfl, rfl, rfl⟩

theorem Quiet.updateCache {f : BindingCache → BindingCache} (h : c.Quiet c') :
    c.Quiet (ContextM.updateCache f c').2 :=
  ⟨h.config, h.driver, h.lastError, h.reports⟩

theorem Quiet.told (h : c.Quiet c') {reports : List Report} (ht : c.Told reports) :
    c'.Told reports :=
  ⟨h.lastError.trans ht.1, h.reports.trans ht.2⟩

theorem Quiet.watches (h : c.Quiet c') (site? : Request → Option Site) : c.Watches site? c' where
  config := h.config
  balanced hb := h.driver ▸ hb
  checks := ⟨[], [], by rw [h.driver, List.append_nil], .nil,
    fun reports hr => by simpa using h.told hr⟩

end Context

namespace ContextM

open Context

theorem quiet_note {e : Event} (he : e.report? = none) (c : Context Observed) :
    c.Quiet (note e c).2 :=
  ⟨rfl, rfl, rfl, by
    change (c.trace ++ [e]).filterMap Event.report? = _
    rw [List.filterMap_append, List.filterMap_cons_none he, List.filterMap_nil, List.append_nil]⟩

theorem told_perform (q : Request) {reports : List Report} (h : c.Told reports) :
    (perform q c).2.Told reports := by
  refine ⟨h.1, ?_⟩
  change (c.trace ++ []).filterMap Event.report? = _
  rw [List.append_nil, h.2]

theorem told_reportError (error : DriverError) (site : Site) {reports : List Report}
    (h : c.Told reports) : (reportError error site c).2.Told (reports ++ [(error, site)]) := by
  have hlast := h.1
  rw [reportError_apply, Told, List.getLast?_concat, destutter_concat, ← hlast]
  by_cases he : c.lastError = some (error, site)
  · rw [if_pos he, if_pos he]
    exact ⟨rfl, h.2⟩
  · rw [if_neg he, if_neg he]
    refine ⟨rfl, ?_⟩
    change (c.trace ++ [_]).filterMap Event.report? = _
    rw [List.filterMap_append, h.2]
    rfl

/-- A check takes one code, and reports it if it is that of an error. -/
theorem told_checkError (h : c.config.checkErrors = true) (site : Site) :
    (checkError site c).2.config = c.config ∧
    (checkError site c).2.driver = (perform .getError c).2.driver ∧
    ∀ reports, c.Told reports → (checkError site c).2.Told
      (reports ++ (report? (site, (perform .getError c).1)).toList) := by
  rw [checkError_of_checked h]
  cases he : DriverError.ofCode? (perform .getError c).1 with
  | none =>
      refine ⟨rfl, rfl, fun reports ht => ?_⟩
      simp only [report?, he, Option.map_none, Option.toList_none, List.append_nil]
      exact told_perform .getError ht
  | some error =>
      obtain ⟨hconfig, hdriver⟩ := reportError_kept error site (perform .getError c).2
      refine ⟨hconfig, hdriver, fun reports ht => ?_⟩
      simp only [report?, he, Option.map_some, Option.toList_some]
      exact told_reportError error site (told_perform .getError ht)

/-- The check after a command, whatever was noted in between. -/
theorem watches_check (hq : q ≠ .getError) (hsite : site? q = some site)
    (h : (perform q c).2.Quiet c') : c.Watches site? (checkError site c').2 := by
  have hconfig : c'.config = c.config := h.config
  have hdriver : c'.driver = (Driver.perform q c.driver).driver := h.driver
  have htold {reports : List Report} (ht : c.Told reports) : c'.Told reports :=
    h.told (told_perform q ht)
  cases hc : c.config.checkErrors with
  | false =>
      rw [checkError_of_unchecked (hconfig ▸ hc)]
      refine ⟨hconfig, fun hb => hdriver ▸ hb.perform q, [⟨q, (perform q c).1⟩], [], ?_, ?_,
        fun _ ht => ?_⟩
      · rw [hdriver]
        rfl
      · exact .unchecked hq hsite hc .nil
      · simpa using htold ht
  | true =>
      obtain ⟨hconfig', hdriver', htold'⟩ := told_checkError (hconfig ▸ hc : _ = true) site
      refine ⟨hconfig'.trans hconfig, fun hb => ?_,
        [⟨q, (perform q c).1⟩, ⟨.getError, (perform .getError c').1⟩],
        [(site, (perform .getError c').1)], ?_, ?_, fun _ ht => ?_⟩
      · rw [hdriver']
        exact (hdriver ▸ hb.perform q : c'.driver.Balanced).perform .getError
      · rw [hdriver']
        change c'.driver.exchanges ++ [⟨.getError, (perform .getError c').1⟩] = _
        rw [hdriver]
        exact List.append_assoc ..
      · exact .checked hq hsite hc .nil
      · exact htold' _ (htold ht)

theorem watches_query (hq : q ≠ .getError) (hsite : site? q = none) :
    c.Watches site? (perform q c).2 where
  config := rfl
  balanced hb := hb.perform q
  checks := ⟨[⟨q, (perform q c).1⟩], [], rfl, .query hq hsite .nil,
    fun reports ht => by simpa using told_perform q ht⟩

/-- All work checks for errors in the same way. -/
theorem watches_routine {α : Type} {act : ContextM Observed α}
    {sent : Request → Option Site → Prop} (h : Routine sent act)
    (hs : ∀ q at?, sent q at? → q ≠ .getError ∧ at? = site? q) (c : Context Observed) :
    c.Watches site? (act c).2 := by
  induction h generalizing c with
  | pure => exact (Quiet.refl c).watches site?
  | sequence _ _ ihx ihf => exact (ihx c).trans (ihf c _)
  | get => exact (Quiet.refl c).watches site?
  | perform hq =>
      obtain ⟨hne, hsite⟩ := hs _ _ hq
      exact watches_query hne hsite.symm
  | command hq =>
      obtain ⟨hne, hsite⟩ := hs _ _ hq
      exact watches_check hne hsite.symm (.refl _)
  | @destroy kind id hq =>
      obtain ⟨hne, hsite⟩ := hs _ _ hq
      -- between the deletion and the check it is noted, and forgotten where the object was bound
      have hquiet : (perform (deleteRequest kind id) c).2.Quiet
          (updateCache (·.forgetObject kind id)
            (note (.deletedObject kind id) (perform (deleteRequest kind id) c).2).2).2 :=
        (quiet_note rfl _).updateCache
      exact watches_check hne hsite.symm hquiet
  | note he => exact (quiet_note he c).watches site?
  | updateCache f => exact (Quiet.refl c).updateCache.watches site?
  | keepTextureUnits n =>
      have hquiet : c.Quiet { c with textureUnits := some n } := ⟨rfl, rfl, rfl, rfl⟩
      exact hquiet.watches site?

end ContextM

end GraphicsObjects
