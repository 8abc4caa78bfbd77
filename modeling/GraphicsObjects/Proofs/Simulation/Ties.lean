import GraphicsObjects.Proofs.Simulation.Tidy

/-!
# Requests that tie objects together

What an attachment, an attached or detached shader and a link make of the links of the object that
they are about. They are accepted if the objects are there.
-/

namespace GraphicsObjects

open Simulation

namespace Links

/-- An object comes to be attached at a point. -/
def attach (point : Attachment) (object : Kind × Id) : Links → Links
  | attachments object? => attachments (Function.update object? point (some object))
  | l => l

/-- A shader comes to be attached, if it is not. -/
def attachShader (shader : Id) : Links → Links
  | shaders attached linked =>
    shaders (if shader ∈ attached then attached else attached ++ [shader]) linked
  | l => l

/-- A shader is attached no more. -/
def detachShader (shader : Id) : Links → Links
  | shaders attached linked => shaders (attached.filter (· ≠ shader)) linked
  | l => l

/-- A link succeeds or fails. -/
def link (status : Bool) : Links → Links
  | shaders attached _ => shaders attached status
  | l => l

end Links

namespace Sim

variable {s : Sim} {id program shader : Id}

theorem links_attach {target : FramebufferTarget} (point : Attachment) {object : Kind × Id}
    (hb : s.bound (.framebuffer target) = id) (hz : id ≠ 0) (ho : object.2 ≠ 0) :
    (s.attach target point object).links .framebuffer id =
      (s.links .framebuffer id).attach point object := by
  simp only [attach, hb, if_neg hz, if_neg ho, links, stateOf, framebufferState, alterFramebuffer,
    Table.alter, Table.getD_insert, if_pos, ObjectState.links, Links.attach]
  refine congrArg Links.attachments (funext fun p => ?_)
  rw [Table.get?_insert, Function.update_apply]
  rfl

theorem links_setProgram_self (s : Sim) (id : Id) (p : ProgramState) :
    (s.setProgram id p).links .program id = .shaders p.attached p.linked := by
  simp [links, stateOf, setProgram, ObjectState.links]

theorem links_attachShader (hs : (s.stateOf .shader shader).Present)
    (hp : (s.stateOf .program program).Present) :
    (s.attachShader program shader).links .program program =
      (s.links .program program).attachShader shader := by
  obtain ⟨p, hp⟩ := Option.isSome_iff_exists.mp hp
  have hcontains : s.shaders.contains shader = true := hs
  rw [links_program hp, attachShader, if_neg (by simp [hcontains])]
  simp only [hp, Links.attachShader]
  split
  · exact (links_raise ..).trans (links_program hp)
  · exact links_setProgram_self ..

theorem links_detachShader (hp : (s.stateOf .program program).Present) :
    (s.detachShader program shader).links .program program =
      (s.links .program program).detachShader shader := by
  obtain ⟨p, hp⟩ := Option.isSome_iff_exists.mp hp
  rw [links_program hp, detachShader]
  simp only [hp, Links.detachShader]
  split
  · exact links_setProgram_self ..
  · rename_i hm
    have hkept : p.attached.filter (· ≠ shader) = p.attached :=
      List.filter_eq_self.mpr fun x hx => decide_eq_true fun e => hm (e ▸ hx)
    rw [hkept]
    exact (links_raise ..).trans (links_program hp)

theorem links_link (hp : (s.stateOf .program program).Present) :
    (s.link program).links .program program =
      (s.links .program program).link ((s.link program).programStatus program) := by
  obtain ⟨p, hp⟩ := Option.isSome_iff_exists.mp hp
  have hattached : ∀ log shaders, (p.link log shaders).attached = p.attached := by
    intro log shaders
    unfold ProgramState.link
    split <;> rfl
  rw [links_program hp, link]
  simp only [hp, Links.link, links_setProgram_self, hattached]
  simp [programStatus, programState, setProgram, Table.getD_insert]

end Sim

end GraphicsObjects
