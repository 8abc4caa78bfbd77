import GraphicsObjects.Proofs.Session.MirrorRuns

/-!
# Programs

The shaders that a program lists are those that the driver has attached to it, in the same order,
each once and all of them live; and the program is linked if the driver has it so.
-/

namespace GraphicsObjects

open Ownership ContextM SessionM

namespace Session

variable {config : Config} {s : Session Sim} {name : String} {p : Found Program}
variable {tied : Prop} {last : Ref → Option Ref} {outside : List Ref}

/-- What the driver has of a program. -/
theorem Mirrored.programState (h : s.Mirrored tied last) (hs : s.Sound outside)
    (hp : s.Has .program p) : ∃ q, s.driver.programs.get? p.id = some q ∧
      q.attached = p.known.shaders.map s.idOf ∧ q.linked = p.known.linked := by
  have hz : p.id ≠ 0 := hs.id_ne_zero hp nofun
  have hpresent := (h.tidy.present .program p.id hz (.inr rfl)).mpr (hs.mem_live hp hz)
  obtain ⟨q, hq⟩ := Option.isSome_iff_exists.mp hpresent
  have hlinks := h.links_program hs hp
  rw [Sim.links_program hq] at hlinks
  obtain ⟨hattached, hlinked⟩ := Links.shaders.inj hlinks
  exact ⟨q, hq, hattached, hlinked⟩

theorem Sound.nodup_shaders (h : s.Sound outside) (hp : s.Has .program p)
    (hn : p.known.shaders.Nodup) : (p.known.shaders.map s.idOf).Nodup := by
  refine hn.map_on fun r hr r' hr' he => ?_
  obtain ⟨i, x, hx⟩ := h.face_of_owned hp hr'
  rw [idOf_of_mem hx] at he
  exact (h.idOf_eq_iff hp hx (h.parts _ _ _ hp r' hr' i x hx) hr).mp he

theorem Sound.live_of_shader (h : s.Sound outside) (hp : s.Has .program p) {r : Ref}
    (hr : r ∈ p.known.shaders) : (.shader, s.idOf r) ∈ s.driver.live := by
  obtain ⟨i, x, hx⟩ := h.face_of_owned hp hr
  have hk : x.payload.kind = .shader := h.parts _ _ _ hp r hr i x hx
  rw [idOf_of_mem hx, ← hk]
  exact h.mem_live hx (h.id_ne_zero hx (hk ▸ nofun))

/-- In every state that a careful client reaches, and for every program: asked for its shaders, it
tells the names that the driver has attached to it, in order, without repetition, all of live
shaders; asked whether it is linked, it tells the link status of the driver. -/
theorem programs_mirrored (h : Reachable Careful config s)
    (hp : s.find? Payload.program? name = some p) :
    ∃ q, s.driver.programs.get? p.id = some q ∧
      s.step (.shaders name) = some (q.attached, s) ∧ q.attached.Nodup ∧
      (∀ id ∈ q.attached, (.shader, id) ∈ s.driver.live) ∧
      ∃ s', s.step (.program name .isLinked) = some (q.linked, s') := by
  obtain ⟨last, hm⟩ := h.mirrored
  have hs := h.inv.sound
  obtain ⟨-, hhas⟩ := has_of_find? Payload.reads_program hp
  obtain ⟨q, hq, hattached, hlinked⟩ := hm.programState hs hhas
  refine ⟨q, hq, ?_⟩
  rw [hattached, hlinked]
  refine ⟨?_, hs.nodup_shaders hhas (hm.orderly _ _ _ hhas), ?_, ?_⟩
  · simp only [Session.step, hp]
    rfl
  · intro id hid
    obtain ⟨r, hr, rfl⟩ := List.mem_map.mp hid
    exact hs.live_of_shader hhas hr
  · exact ⟨_, onObject_of_find? hp⟩

/-- A program that two variables held. Its shader, with a name that a program had before, was
attached twice and stays attached after its variable is dropped; another was detached that was not
attached. -/
def sharedProgram : Option (Session Sim) :=
  (start .fresh {}).perform Careful
    [.create "old" 0 .program, .drop "old", .create "v" 0 (.shaderWithSource .vertex "v"),
      .create "p" 0 .program, .clone "p" "q", .attachShader "p" "v", .attachShader "q" "v",
      .create "g" 0 (.shader .geometry), .detachShader "q" "g", .program "p" .link, .drop "v",
      .drop "p"]

-- a literal is evaluated as it stands, and not through the bytes that encode it
attribute [local irreducible] String.toList

theorem programs_mirrored_when_shared : ∃ s p s', sharedProgram = some s ∧
    s.find? Payload.program? "q" = some p ∧ s.step (.shaders "q") = some ([1], s) ∧
    (.shader, 1) ∈ s.driver.live ∧ s.step (.program "q" .isLinked) = some (true, s') := by
  have hfound : sharedProgram.map (fun s => ((s.find? Payload.program? "q").map (·.id),
      (s.driver.programs.get? 2).map fun q => (q.attached, q.linked))) =
        some (some 2, some ([1], true)) := by cbv
  obtain ⟨s, hs, he⟩ := Option.map_eq_some_iff.mp hfound
  obtain ⟨hid, hstate⟩ := Prod.mk.inj he
  obtain ⟨p, hp, hid⟩ := Option.map_eq_some_iff.mp hid
  obtain ⟨q, hq, hshaders, -, hlive, s', hlinked⟩ :=
    programs_mirrored (Reachable.start.perform hs) hp
  simp only [← hid, hq, Option.map_some, Option.some.injEq, Prod.mk.injEq] at hstate
  rw [hstate.1] at hshaders hlive
  rw [hstate.2] at hlinked
  exact ⟨s, p, s', hs, hp, hshaders, hlive 1 (by decide), hlinked⟩

end Session

end GraphicsObjects
