import GraphicsObjects.Proofs.Object.Draws
import GraphicsObjects.Proofs.Session.MirrorRuns

/-!
# Index buffers

An indexed draw takes its indices from the buffer that its vertex array was given last, whatever was
bound, uploaded, created or deleted since.
-/

namespace GraphicsObjects

open Ownership ContextM SessionM

namespace Session

variable {config : Config} {s : Session Sim} {last : Ref → Option Ref} {outside : List Ref}
variable {program vertexArray : String} {p : Found Program} {v : Found VertexArray} {b : Ref}

/-- The buffer that a vertex array was given last is live, and the driver has recorded it. -/
theorem Mirrored.elementBuffer_eq (h : s.Mirrored True last) (hs : s.Sound outside)
    (hv : s.Has .vertexArray v) (hb : last v.ref = some b) :
    s.driver.elementBuffer v.id = s.idOf b ∧ (.buffer, s.idOf b) ∈ s.driver.live ∧
      s.idOf b ≠ 0 := by
  have hz : v.id ≠ 0 := hs.id_ne_zero hv nofun
  have hlinks := h.links _ _ _ hv hz fun _ => trivial
  rw [hb] at hlinks
  have helements : s.driver.links .vertexArray v.id = .elements (s.idOf b) := hlinks
  rw [Sim.links_vertexArray hz] at helements
  have hown : b ∈ v.known.buffers := h.orderly _ _ _ hv b hb
  obtain ⟨i, x, hx⟩ := hs.face_of_owned hv hown
  have hkind : x.payload.kind = .buffer := hs.parts _ _ _ hv b hown i x hx
  have hi : i ≠ 0 := hs.id_ne_zero hx (hkind ▸ nofun)
  rw [idOf_of_mem hx] at helements ⊢
  exact ⟨Links.elements.inj helements, hkind ▸ hs.mem_live hx hi, hi⟩

/-- However the client got here without binding an element buffer itself: an indexed draw with a
linked program and a vertex array that was given a buffer for its indices draws once, with that
program and that vertex array, into the framebuffer that was bound, with indices from the buffer
that the vertex array was given last. This buffer is live, and the draw raises no error. -/
theorem draws_own_indices (h : Indexing config last s)
    (hp : s.find? Payload.program? program = some p) (hl : p.known.linked = true)
    (hv : s.find? Payload.vertexArray? vertexArray = some v) (hb : last v.ref = some b)
    (mode : DrawMode) (count : Int) (type : IndexType) (offset : Nat) :
    (.buffer, s.idOf b) ∈ s.driver.live ∧ ∃ s',
      s.step (.drawElements program vertexArray mode count type offset) = some ((), s') ∧
      s'.driver.draws = s.driver.draws ++ [{ mode
                                             program := p.id
                                             vertexArray := v.id
                                             framebuffer := s.driver.bound (.framebuffer .draw)
                                             first := offset
                                             count
                                             indices := some (type, s.idOf b) }] ∧
      s'.driver.errors =
        if (s.enter 0).config.checkErrors then s.driver.errors.tail else s.driver.errors := by
  have hm := h.mirrored
  have hs := h.reachable.inv.sound
  obtain ⟨-, hp'⟩ := has_of_find? Payload.reads_program hp
  obtain ⟨-, hv'⟩ := has_of_find? Payload.reads_vertexArray hv
  obtain ⟨helement, hlive, hbuffer⟩ := hm.elementBuffer_eq hs hv' hb
  have hlinked : s.driver.programStatus p.id = true :=
    (Program.programStatus_of_links (hm.links_program hs hp')).trans hl
  have houtcome := Program.outcome_drawElements hs.ready (hm.settled trivial) (hs.admits hp' rfl)
    hlinked (hs.admits hv' rfl) (hs.id_ne_zero hv' nofun) helement hbuffer mode count type offset
  obtain ⟨hdraws, herrors⟩ := Prod.mk.inj houtcome
  refine ⟨hlive, (inContext 0 (Program.drawElements p.id v.id mode count type offset) s).2, ?_,
    hdraws, herrors⟩
  simp only [Session.step, Session.draw, hp, hv]
  change some (inContext p.context (Program.drawElements p.id v.id mode count type offset) s) = _
  rw [hs.context_eq hp']
  rfl

/-- A vertex array, whose name was another's before, that was given two buffers for its indices. The
first is uploaded to afterwards, and the variable of the second is dropped. -/
def indexedTwice : Option ((Ref → Option Ref) × Session Sim) :=
  (start .fresh { strictUnbind := true }).performIndexing (fun _ => none)
    [.create "old" 0 .vertexArray, .create "v" 0 (.shaderWithSource .vertex "v"),
      .create "p" 0 (.programWithShaders ["v"]), .create "i" 0 (.buffer .elementArray),
      .create "j" 0 (.buffer .elementArray), .drop "old", .create "a" 0 .vertexArray,
      .setIndexBuffer "a" "i", .setIndexBuffer "a" "j", .bind "a",
      .buffer "i" (.allocate 6 .staticDraw), .drop "j"]

-- a literal is evaluated as it stands, and not through the bytes that encode it
attribute [local irreducible] String.toList

theorem draws_own_indices_given_twice : ∃ last s s', indexedTwice = some (last, s) ∧
    (.buffer, 2) ∈ s.driver.live ∧
    s.step (.drawElements "p" "a" .triangles 3 .u16 2) = some ((), s') ∧
    s'.driver.draws = [{ mode := .triangles
                         program := 2
                         vertexArray := 1
                         framebuffer := 0
                         first := 2
                         count := 3
                         indices := some (.u16, 2) }] ∧ s'.driver.errors = [] := by
  have hfound : indexedTwice.map (fun x =>
      ((x.2.find? Payload.program? "p").map fun p => (p.id, p.known.linked),
        (x.2.find? Payload.vertexArray? "a").map fun v => (v.id, x.1 v.ref, x.2.idOf 4),
        x.2.driver.bound (.framebuffer .draw), x.2.driver.draws, x.2.driver.errors)) =
      some (some (2, true), some (1, some 4, 2), 0, [], []) := by cbv
  obtain ⟨⟨last, s⟩, hs, he⟩ := Option.map_eq_some_iff.mp hfound
  simp only [Prod.mk.injEq, Option.map_eq_some_iff] at he
  obtain ⟨⟨p, hp, hpid, hlinked⟩, ⟨v, hv, hvid, hlast, hbid⟩, hframebuffer, hdraws, herrors⟩ := he
  obtain ⟨hlive, s', hstep, hdrawn, hraised⟩ :=
    draws_own_indices (Indexing.start.perform hs) hp hlinked hv hlast .triangles 3 .u16 2
  rw [hpid, hvid, hbid, hframebuffer, hdraws] at hdrawn
  rw [herrors, List.tail_nil, ite_self] at hraised
  exact ⟨last, s, s', hs, hbid ▸ hlive, hstep, hdrawn, hraised⟩

end Session

end GraphicsObjects
