import GraphicsObjects.Proofs.Context.Routines
import GraphicsObjects.Proofs.Native.Uploads

/-!
# Points of framebuffers in the library

The library knows a point of a framebuffer by a number. The numbers of the color points run on into
those of the points for depth and stencil, and otherwise no two points have the same. A request that
attaches an object becomes one call with the number of its point, and no other request becomes a
call that attaches anything.
-/

namespace GraphicsObjects

namespace Attachment

/-- Two points that are one for the library. -/
def Collides (p q : Attachment) : Prop :=
  p = color 32 ∧ q = depth ∨ p = depth ∧ q = color 32 ∨
    p = color 64 ∧ q = stencil ∨ p = stencil ∧ q = color 64

theorem enumerant_eq_iff {p q : Attachment} :
    p.enumerant = q.enumerant ↔ p = q ∨ p.Collides q := by
  change @Eq Nat _ _ ↔ _
  cases p <;> cases q <;> simp [enumerant, Collides, Enumerant.colorAttachment0] <;> omega

end Attachment

/-- The point and the object that a request attaches to a framebuffer, if it is one that does. -/
def Request.attached? : Request → Option (Attachment × Id)
  | framebufferRenderbuffer _ point id | framebufferTexture _ point _ id _ _ => some (point, id)
  | _ => none

theorem Request.attached?_eq_none {q : Request} (h : ¬ q.Attaches) : q.attached? = none := by
  cases q with
  | framebufferRenderbuffer | framebufferTexture => exact absurd trivial h
  | _ => rfl

namespace Native

/-- The point and the object that a call attaches to a framebuffer, if it is one that does. -/
def EntryCall.attached? : EntryCall → Option (Enumerant × Id)
  | framebufferRenderbuffer _ point _ id | framebufferTexture1D _ point _ id _
  | framebufferTexture2D _ point _ id _ | framebufferTexture _ point id _
  | framebufferTextureLayer _ point id _ _ => some (point, id)
  | _ => none

variable {γ α β : Type}

/-- What was attached by the calls that the library received, in order. -/
def Recorder.attached (r : Recorder γ) : List (Enumerant × Id) :=
  r.calls.filterMap EntryCall.attached?

/-- The library is called to attach these. -/
def Attaches (xs : List (Enumerant × Id)) (act : NativeM (Recorder γ) α) : Prop :=
  ∀ s, (act s).2.1.attached = s.1.attached ++ xs

variable {xs : List (Enumerant × Id)}

theorem Attaches.pure (a : α) : Attaches [] (Pure.pure a : NativeM (Recorder γ) α) :=
  fun s => (List.append_nil s.1.attached).symm

theorem Attaches.bind {x : NativeM (Recorder γ) α} {f : α → NativeM (Recorder γ) β}
    (hx : Attaches [] x) (hf : ∀ a, Attaches xs (f a)) : Attaches xs (x >>= f) := by
  intro s
  refine (hf _ _).trans ?_
  rw [hx s, List.append_nil]

theorem Attaches.forM {as : List α} {f : α → NativeM (Recorder γ) PUnit}
    (h : ∀ a, Attaches [] (f a)) : Attaches [] (as.forM f) := by
  induction as with
  | nil => exact .pure _
  | cons a as ih => exact .bind (h a) fun _ => ih

theorem Attaches.map (f : α → β) {x : NativeM (Recorder γ) α} (hx : Attaches [] x) :
    Attaches [] (f <$> x) :=
  .bind hx fun _ => .pure _

theorem Attaches.mapM {as : List α} {f : α → NativeM (Recorder γ) β}
    (h : ∀ a, Attaches [] (f a)) : Attaches [] (as.mapM f) := by
  induction as with
  | nil => exact .pure _
  | cons a as ih =>
      rw [List.mapM_cons]
      exact .bind (h a) fun _ => .bind ih fun _ => .pure _

theorem attaches_note (e : Event) : Attaches [] (note e : NativeM (Recorder γ) Unit) :=
  fun s => (List.append_nil s.1.attached).symm

variable [EntryPoints γ]

theorem attaches_call {c : EntryCall} (hc : c.attached?.toList = xs) :
    Attaches xs (call c : NativeM (Recorder γ) c.Answer) := by
  intro s
  change (s.1.calls ++ [c]).filterMap EntryCall.attached? = _
  rw [List.filterMap_append, ← hc, Recorder.attached]
  cases h : c.attached? <;> simp [h]

theorem attaches_issue {c : EntryCall} (hc : c.attached?.toList = xs) :
    Attaches xs (issue c : NativeM (Recorder γ) Unit) :=
  fun s => attaches_call hc s

theorem attaches_getInteger (p : Enumerant) :
    Attaches [] (getInteger p : NativeM (Recorder γ) Int) :=
  .bind (attaches_call rfl) fun _ => .pure _

theorem attaches_guardTransfer {direction : PixelDirection} {format type : Enumerant}
    {size : Extents} {dimensions len : Nat} {dropped : α} {transfer : NativeM (Recorder γ) α}
    (ht : Attaches [] transfer) : Attaches []
      (guardTransfer direction format type size dimensions len dropped transfer) := by
  refine .bind (.map _ (.mapM attaches_getInteger)) fun store => ?_
  split
  · exact ht
  · exact .bind (attaches_note _) fun _ => .pure _

theorem attached?_texImageCall (target : ImageTarget) (image : ImageSpec) :
    (texImageCall target image).attached? = none := by
  unfold texImageCall
  split <;> rfl

theorem attached?_framebufferTextureCall (target : FramebufferTarget) (point : Attachment)
    (image : ImageTarget) (texture : Id) (level : Int) (layer : Option Int) :
    (framebufferTextureCall target point image texture level layer).attached? =
      some (point.enumerant, texture) := by
  unfold framebufferTextureCall
  split <;> rfl

/-- A request that attaches an object becomes one call that attaches it, at the number of the point;
other requests become calls that attach nothing. -/
theorem attaches_serve (q : Request) :
    Attaches (q.attached?.map (·.map Attachment.enumerant id)).toList
      (serve q : NativeM (Recorder γ) q.Answer) := by
  cases q with
  | genObjects kind slots =>
      simp only [serve, genObjects]
      split
      · exact .pure _
      · exact attaches_call rfl
  | deleteObjects kind ids =>
      simp only [serve, deleteObjects]
      split
      · exact .forM fun _ => attaches_issue rfl
      · exact .forM fun _ => attaches_issue rfl
      · exact attaches_issue rfl
  | bind slot id => exact attaches_issue (by cases slot <;> rfl)
  | createShader | createProgram | getError | checkFramebufferStatus => exact attaches_call rfl
  | getInteger p => exact attaches_getInteger p
  | getTexParameter | shaderStatus | programStatus | programParameter =>
      exact .bind (attaches_call rfl) fun _ => .pure _
  | texImage target image =>
      have hspecify : Attaches [] (issue (texImageCall target image) : NativeM (Recorder γ) Unit) :=
        attaches_issue (by rw [attached?_texImageCall]; rfl)
      simp only [serve, texImage]
      split
      · exact hspecify
      · exact attaches_guardTransfer hspecify
  | readPixels => exact attaches_guardTransfer (attaches_call rfl)
  | renderbufferStorage =>
      refine attaches_issue ?_
      unfold renderbufferStorageCall
      split <;> rfl
  | framebufferTexture =>
      refine attaches_issue ?_
      rw [attached?_framebufferTextureCall]
      rfl
  | enableVertexAttribute index enable => exact attaches_issue (by cases enable <;> rfl)
  | shaderInfoLog | programInfoLog | activeUniform | activeAttribute =>
      exact .bind (.bind (attaches_call rfl) fun _ => .pure _) fun _ =>
        .bind (attaches_call rfl) fun _ => .pure _
  | bindAttributeLocation =>
      simp only [serve]
      split
      · exact attaches_issue rfl
      · exact .pure _
  | attributeLocation | uniformLocation =>
      simp only [serve]
      split
      · exact attaches_call rfl
      · exact .pure _
  | uniform location value => exact attaches_issue (by cases value <;> rfl)
  | _ => exact attaches_issue rfl

end Native

namespace ContextM

open Native

variable {γ α : Type} [EntryPoints γ] {sent : Request → Option Site → Prop}

theorem attached_perform (q : Request) (c : Context (NativeDriver (Recorder γ))) :
    (perform q c).2.driver.library.attached =
      c.driver.library.attached ++ (q.attached?.map (·.map Attachment.enumerant id)).toList :=
  attaches_serve q (c.driver.library, [])

theorem attached_checkError (site : Site) (c : Context (NativeDriver (Recorder γ))) :
    (checkError site c).2.driver.library.attached = c.driver.library.attached := by
  rw [driver_checkError]
  split
  · exact (attached_perform .getError c).trans (List.append_nil _)
  · rfl

theorem attached_command (q : Request) (site : Site) (c : Context (NativeDriver (Recorder γ))) :
    (command q site c).2.driver.library.attached =
      c.driver.library.attached ++ (q.attached?.map (·.map Attachment.enumerant id)).toList :=
  (attached_checkError site _).trans (attached_perform q c)

/-- Nothing is attached but by requests that attach something. -/
theorem attached_routine {act : ContextM (NativeDriver (Recorder γ)) α} (h : Routine sent act)
    (hs : ∀ q at?, sent q at? → ¬ q.Attaches) (c : Context (NativeDriver (Recorder γ))) :
    (act c).2.driver.library.attached = c.driver.library.attached := by
  have hperform {q : Request} (hq : ¬ q.Attaches) (c : Context (NativeDriver (Recorder γ))) :
      (perform q c).2.driver.library.attached = c.driver.library.attached := by
    rw [attached_perform, Request.attached?_eq_none hq]
    exact List.append_nil _
  induction h generalizing c with
  | sequence _ _ ihx ihf => exact (ihf c _).trans (ihx c)
  | perform hq => exact hperform (hs _ _ hq) c
  | command hq => exact (attached_checkError _ _).trans (hperform (hs _ _ hq) c)
  | destroy hq => exact (attached_checkError _ _).trans (hperform (hs _ _ hq) c)
  | pure | get | note | updateCache | keepTextureUnits => rfl

end ContextM

end GraphicsObjects
