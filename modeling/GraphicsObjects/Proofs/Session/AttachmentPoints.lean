import GraphicsObjects.Proofs.Native.Attachments
import GraphicsObjects.Proofs.Session.Routines

/-!
# What is attached over a library

Every object that a client attaches to a framebuffer becomes one call to the library, and what is
told to be attached at a point is what was attached there last. As the library knows points by their
numbers, what it has at a point is something else just if a point of the same number came after.
-/

namespace GraphicsObjects

open Ownership ContextM SessionM Native

/-- An object with its name that was attached at a point of a framebuffer. -/
structure Placement where
  framebuffer : Ref
  point : Attachment
  object : Ref
  name : Id

namespace Placement

/-- What the library is called with. -/
def passed (t : Placement) : Enumerant × Id := (t.point.enumerant, t.name)

/-- The object that was attached last at a point, given what was attached, the last of it first. -/
def latest? (placed : List Placement) (r : Ref) (point : Attachment) : Option Ref :=
  (placed.find? fun t => t.framebuffer = r ∧ t.point = point).map (·.object)

theorem latest?_cons (t : Placement) (placed : List Placement) (r : Ref) (point : Attachment) :
    latest? (t :: placed) r point =
      if t.framebuffer = r ∧ t.point = point then some t.object else latest? placed r point := by
  unfold latest?
  by_cases h : t.framebuffer = r ∧ t.point = point
  · rw [if_pos h, List.find?_cons_of_pos (by simpa using h)]
    rfl
  · rw [if_neg h, List.find?_cons_of_neg (by simpa using h)]

theorem latest?_eq_none {placed : List Placement} {r : Ref} (h : ∀ t ∈ placed, t.framebuffer ≠ r)
    (point : Attachment) : latest? placed r point = none := by
  rw [latest?, Option.map_eq_none_iff, List.find?_eq_none]
  intro t ht hm
  exact h t ht (by simpa using hm : _ ∧ _).1

/-- Nothing was attached at the point afterwards. -/
theorem exists_of_latest? {placed : List Placement} {r o : Ref} {point : Attachment}
    (h : latest? placed r point = some o) : ∃ later t earlier, placed = later ++ t :: earlier ∧
      t.framebuffer = r ∧ t.point = point ∧ t.object = o ∧
      ∀ t' ∈ later, t'.framebuffer = r → t'.point ≠ point := by
  obtain ⟨t, ht, hobject⟩ := Option.map_eq_some_iff.mp h
  obtain ⟨hmatch, later, earlier, hsplit, hlater⟩ := List.find?_eq_some_iff_append.mp ht
  obtain ⟨hr, hp⟩ : t.framebuffer = r ∧ t.point = point := by simpa using hmatch
  refine ⟨later, t, earlier, hsplit, hr, hp, hobject, fun t' ht' hr' hp' => ?_⟩
  simpa [hr', hp'] using hlater t' ht'

end Placement

namespace Session

variable {δ γ : Type}

/-- What a client attaches, if an operation is one that attaches something and is not refused. -/
def placed? (s : Session δ) : (op : Op) → op.Answer → Option Placement
  | .attachRenderbuffer framebuffer point renderbuffer, _ => do
    let fb ← s.find? Payload.framebuffer? framebuffer
    let rb ← s.find? Payload.renderbuffer? renderbuffer
    pure { framebuffer := fb.ref, point, object := rb.ref, name := rb.id }
  | .attachTexture framebuffer point texture _, .ok () => do
    let fb ← s.find? Payload.framebuffer? framebuffer
    let t ← s.find? Payload.texture? texture
    pure { framebuffer := fb.ref, point, object := t.ref, name := t.id }
  | _, _ => none

variable {config : Config} {placed : List Placement} {op : Op}
variable {s s' : Session (NativeDriver (Recorder γ))}
variable {sent : Request → Option Site → Prop} {edited : Ref → Prop}

/-- What was attached is what the library was called for, and what framebuffers tell. -/
structure Placed (placed : List Placement) (s : Session (NativeDriver (Recorder γ))) : Prop where
  home : s.AtHome
  attached : s.driver.library.attached = (placed.map Placement.passed).reverse
  known : ∀ t ∈ placed, t.framebuffer < s.store.next ∧ t.object < s.store.next
  names : ∀ t ∈ placed, ∀ b, s.store.get? t.object = some b → b.id = t.name
  told : ∀ r b f, s.store.get? r = some b → b.content.payload = .framebuffer f →
    ∀ point, f.attachments.get? point = Placement.latest? placed r point

theorem placed_start (library : γ) (config : Config) (orders : List (List Nat)) :
    Placed [] (start (⟨{ library }⟩ : NativeDriver (Recorder γ)) config orders) :=
  ⟨atHome_start _ _ _, rfl, List.forall_mem_nil _, List.forall_mem_nil _, nofun⟩

theorem Placed.names_of_boxes (h : Placed placed s) (hb : Inherits edited s.store s'.store) :
    ∀ t ∈ placed, ∀ b, s'.store.get? t.object = some b → b.id = t.name := by
  intro t ht b' hb'
  rcases hb t.object b' hb' with ⟨b, hb, hkept⟩ | ⟨hnew, -⟩
  · exact hkept.id.trans (h.names t ht b hb)
  · exact absurd (h.known t ht).2 (Nat.not_lt.mpr hnew)

/-- Framebuffers that are not edited tell what they told. -/
theorem Placed.told_of_boxes (h : Placed placed s) (hb : Inherits edited s.store s'.store)
    {r : Ref} (hr : ¬ edited r) {b' : Box Object} {f : Framebuffer}
    (hb' : s'.store.get? r = some b') (hf : b'.content.payload = .framebuffer f)
    (point : Attachment) : f.attachments.get? point = Placement.latest? placed r point := by
  rcases hb r b' hb' with ⟨b, hb, hkept⟩ | ⟨hnew, hempty⟩
  · exact h.told r b f hb (hkept.framebuffer f hr hf) point
  · have hnone (t : Placement) (ht : t ∈ placed) : t.framebuffer ≠ r :=
      Nat.ne_of_lt (Nat.lt_of_lt_of_le (h.known t ht).1 hnew)
    rw [hempty f hr hf, Placement.latest?_eq_none hnone]
    rfl

variable [EntryPoints γ]

/-- The sessions with one context over a library in any state, and what was attached in them, the
last of it first. -/
inductive Placing (config : Config) :
    List Placement → Session (NativeDriver (Recorder γ)) → Prop where
  | start (library : γ) {orders : List (List Nat)} :
    Placing config [] (start ⟨{ library }⟩ config orders)
  | step {placed : List Placement} {s s' : Session (NativeDriver (Recorder γ))} {op : Op}
    {answer : op.Answer} (h : Placing config placed s) (ho : op.IsOwn ∨ op.Polls)
    (hs : s.step op = some (answer, s')) :
    Placing config ((s.placed? op answer).toList ++ placed) s'

/-- Work that attaches nothing. -/
theorem Placed.passes (h : Placed placed s) (hp : s.Passes sent edited s')
    (hs : ∀ q at?, sent q at? → ¬ q.Attaches) (he : ∀ r, ¬ edited r) : Placed placed s' where
  home := hp.home
  attached := by
    obtain ⟨act, hact, henter⟩ := hp.work
    have hdriver : s'.driver = (act (s.enter 0)).2.driver := congrArg Context.driver henter
    rw [hdriver, attached_routine hact hs]
    exact h.attached
  known t ht := by
    obtain ⟨hfb, ho⟩ := h.known t ht
    exact ⟨Nat.lt_of_lt_of_le hfb hp.next, Nat.lt_of_lt_of_le ho hp.next⟩
  names := h.names_of_boxes hp.boxes
  told r b' f hb' hf := h.told_of_boxes hp.boxes (he r) hb' hf

end Session

/-! ## Attaching -/

namespace SessionM

variable {δ : Type} [Driver δ] {fb : Found Framebuffer} {point : Attachment} {object : Ref}
variable {q : Request} {site : Site}

/-- An attachment up to where what was at the point before is given back. -/
def affix (fb : Found Framebuffer) (point : Attachment) (object : Ref) (q : Request) (site : Site) :
    SessionM δ Guard := do
  let g ← inContext fb.context (ContextM.acquire fb.known.slot fb.id)
  inContext fb.context do
    let _ ← ContextM.command q site
  retain object
  let attachments := fb.known.attachments.insert point object
  setPayload fb.ref (.framebuffer { fb.known with attachments })
  pure g

theorem attach_apply (s : Session δ) : attach fb point object q site s =
    (do
      giveBack (fb.known.attachments.get? point).toList
      inContext fb.context (ContextM.release (affix fb point object q site s).1))
      (affix fb point object q site s).2 := rfl

theorem attachTexture_of_error {t : Found Texture} {part : Framebuffer.TexturePart} {e : Failure}
    (h : fb.known.textureRequest point part t.known.target t.id = .error e) (s : Session δ) :
    attachTexture fb point t part s = (.error e, s) := by
  simp only [attachTexture, h]
  rfl

theorem attachTexture_of_ok {t : Found Texture} {part : Framebuffer.TexturePart}
    (h : fb.known.textureRequest point part t.known.target t.id = .ok q) (s : Session δ) :
    attachTexture fb point t part s =
      (.ok (), (attach fb point t.ref q .attachingTexture s).2) := by
  simp only [attachTexture, h]
  rfl

theorem passing_affix (hc : fb.context = 0) :
    Passing (fun _ _ => True) (· = fb.ref) (affix fb point object q site : SessionM δ Guard) := by
  refine .bind (passing_inContext hc (routine_acquire (fun _ => trivial) trivial)) fun g => ?_
  refine .bind (passing_inContext hc (.bind (.command trivial) fun _ => .pure _)) fun _ => ?_
  exact .bind (passing_retain object) fun _ => .bind (passing_setPayload fun _ _ => rfl) fun _ =>
    .pure g

end SessionM

namespace Session

variable {γ : Type} [EntryPoints γ] {placed : List Placement}
variable {s s' : Session (NativeDriver (Recorder γ))} {fb : Found Framebuffer} {point : Attachment}
variable {object : Ref} {name : Id} {q : Request} {site : Site}

/-- The framebuffer tells of the object from the call on that attaches it. -/
theorem Placed.of_affix (h : Placed placed s)
    (hf : s.follow? Payload.framebuffer? fb.ref = some fb)
    (ho : ∃ b, s.store.get? object = some b ∧ b.id = name)
    (hq : q.attached? = some (point, name)) :
    Placed (⟨fb.ref, point, object, name⟩ :: placed) (affix fb point object q site s).2 := by
  have hc : fb.context = 0 := h.home.context_eq_of_follow? hf
  have hpasses : s.Passes (fun _ _ => True) (· = fb.ref) (affix fb point object q site s).2 :=
    passing_affix hc s h.home
  obtain ⟨-, bf, hbf, -, -, hknown⟩ := exists_box_of_follow? hf
  obtain ⟨bo, hbo, hname⟩ := ho
  have hpayload : bf.content.payload = .framebuffer fb.known :=
    Payload.reads_framebuffer _ _ hknown
  refine ⟨hpasses.home, ?_, ?_, ?_, fun r b' f hb' hf' point' => ?_⟩
  · have hacquire : Routine (fun q _ => ¬ q.Attaches)
        (acquire fb.known.slot fb.id : ContextM (NativeDriver (Recorder γ)) Guard) :=
      routine_acquire (fun _ => not_false) not_false
    have hacquired := attached_routine hacquire (fun _ _ => id) (s.enter fb.context)
    refine (attached_command q site _).trans ?_
    rw [hq, List.map_cons, List.reverse_cons, ← h.attached]
    exact congrArg (· ++ _) hacquired
  · refine List.forall_mem_cons.mpr ⟨⟨?_, ?_⟩, fun t ht => ?_⟩
    · exact Nat.lt_of_lt_of_le (h.home.below _ _ hbf) hpasses.next
    · exact Nat.lt_of_lt_of_le (h.home.below _ _ hbo) hpasses.next
    · obtain ⟨hr, ho⟩ := h.known t ht
      exact ⟨Nat.lt_of_lt_of_le hr hpasses.next, Nat.lt_of_lt_of_le ho hpasses.next⟩
  · refine List.forall_mem_cons.mpr ⟨fun b hb => ?_, h.names_of_boxes hpasses.boxes⟩
    rcases hpasses.boxes object b hb with ⟨b₀, hb₀, hkept⟩ | ⟨hnew, -⟩
    · cases hbo.symm.trans hb₀
      exact hkept.id.trans hname
    · exact absurd (h.home.below _ _ hbo) (Nat.not_lt.mpr hnew)
  · rw [Placement.latest?_cons]
    by_cases hr : fb.ref = r
    · subst hr
      have hedited : b'.content.payload = .framebuffer
          { fb.known with attachments := fb.known.attachments.insert point object } := by
        change ((s.store.retain object).modify fb.ref _).get? fb.ref = some b' at hb'
        rw [Store.get?_modify, if_pos rfl] at hb'
        obtain ⟨b, -, rfl⟩ := Option.map_eq_some_iff.mp hb'
        rfl
      obtain rfl := Payload.framebuffer.inj (hedited.symm.trans hf')
      change (fb.known.attachments.insert point object).get? point' = _
      rw [Table.get?_insert, h.told fb.ref bf fb.known hbf hpayload point']
      simp only [true_and, eq_comm]
    · rw [if_neg fun hm => hr hm.1]
      exact h.told_of_boxes hpasses.boxes (Ne.symm hr) hb' hf' point'

theorem Placed.of_attach (h : Placed placed s)
    (hf : s.follow? Payload.framebuffer? fb.ref = some fb)
    (ho : ∃ b, s.store.get? object = some b ∧ b.id = name)
    (hq : q.attached? = some (point, name)) :
    Placed (⟨fb.ref, point, object, name⟩ :: placed) (attach fb point object q site s).2 := by
  have hc : fb.context = 0 := h.home.context_eq_of_follow? hf
  have haffixed : Placed _ (affix fb point object q site s).2 := h.of_affix hf ho hq
  have hrest : Passing (Apartly False) (fun _ => False) (do
      giveBack (fb.known.attachments.get? point).toList
      inContext fb.context (release (affix fb point object q site s).1) :
        SessionM (NativeDriver (Recorder γ)) Unit) :=
    .bind (passing_giveBack (fun _ _ => id) _) fun _ =>
      passing_inContext hc (routine_release activates_apartly (apartly_bind _))
  rw [attach_apply]
  exact haffixed.passes (hrest _ haffixed.home) (fun _ _ hq => hq.1.2) fun _ => id

variable {op : Op} {config : Config}

omit [EntryPoints γ] in
theorem placed?_eq_none (h : op.framebuffer? = none) (answer : op.Answer) :
    s.placed? op answer = none := by
  cases op with
  | attachRenderbuffer | attachTexture => cases h
  | _ => rfl

/-- What an operation attaches is told from then on, and nothing else is attached. -/
theorem Placed.step (h : Placed placed s) (ho : op.IsOwn ∨ op.Polls) {answer : op.Answer}
    (hs : s.step op = some (answer, s')) :
    Placed ((s.placed? op answer).toList ++ placed) s' := by
  cases hn : op.framebuffer? with
  | none =>
      rw [placed?_eq_none hn]
      rcases ho with ho | hp
      · refine h.passes (h.home.step ho hs) (fun q _ hq ha => ?_) fun r hr => ?_
        · have hsome := hq.1 ha
          rw [hn] at hsome
          cases hsome
        · obtain ⟨name, hname, -⟩ := hr
          cases hn.symm.trans hname
      · have hpolled := (h.home.poll hp hs).1
        exact h.passes hpolled (by rintro _ _ rfl; exact id) fun _ => id
  | some name =>
      cases op with
      | attachRenderbuffer framebuffer point renderbuffer =>
          obtain ⟨fb, rb, hfb, hrb, rfl⟩ := of_lookups hs
          have hplaced : s.placed? (.attachRenderbuffer framebuffer point renderbuffer) answer =
              some ⟨fb.ref, point, rb.ref, rb.id⟩ := by
            simp only [placed?, hfb, hrb]
            rfl
          rw [hplaced]
          obtain ⟨-, b, hb, hid, -⟩ := exists_box_of_follow? (follow?_of_find? hrb).2
          exact h.of_attach (follow?_of_find? hfb).2 ⟨b, hb, hid⟩ rfl
      | attachTexture framebuffer point texture part =>
          simp only [Session.step, Option.bind_eq_bind, Option.bind_eq_some_iff, Option.pure_def,
            Option.some.injEq] at hs
          obtain ⟨fb, hfb, t, ht, he⟩ := hs
          change attachTexture fb point t part s = (answer, s') at he
          cases hq : fb.known.textureRequest point part t.known.target t.id with
          | error e =>
              rw [attachTexture_of_error hq] at he
              obtain ⟨rfl, rfl⟩ := Prod.mk.inj he
              exact h
          | ok q =>
              rw [attachTexture_of_ok hq] at he
              obtain ⟨rfl, rfl⟩ := Prod.mk.inj he
              obtain ⟨image, level, layer, rfl⟩ := Framebuffer.of_textureRequest hq
              have hplaced : s.placed? (.attachTexture framebuffer point texture part) (.ok ()) =
                  some ⟨fb.ref, point, t.ref, t.id⟩ := by
                simp only [placed?, hfb, ht]
                rfl
              rw [hplaced]
              obtain ⟨-, b, hb, hid, -⟩ := exists_box_of_follow? (follow?_of_find? ht).2
              exact h.of_attach (follow?_of_find? hfb).2 ⟨b, hb, hid⟩ rfl
      | _ => cases hn

theorem Placing.invariant (h : Placing config placed s) : Placed placed s := by
  induction h with
  | start library => exact placed_start library config _
  | step _ ho hs ih => exact ih.step ho hs

/-- Points are one for the library just if they are the same or collide. What a client attached is
what the library was called for, in order, each with the number of its point. What a framebuffer
tells of a point was attached there with the name that is told, and the library has it there still
unless something was attached to the framebuffer at a point that collides. -/
theorem points_apart_iff (h : Placing config placed s) :
    (∀ p q : Attachment, p.enumerant = q.enumerant ↔ p = q ∨ p.Collides q) ∧
    s.driver.library.attached = (placed.map Placement.passed).reverse ∧
    ∀ name point info s', s.step (.attachment name point) = some (some info, s') →
      ∃ later t earlier, placed = later ++ t :: earlier ∧
        s.vars.get? name = some (.object t.framebuffer) ∧ t.point = point ∧ t.name = info.id ∧
        ∀ t' ∈ later, t'.framebuffer = t.framebuffer →
          (t'.passed.1 = t.passed.1 ↔ t'.point.Collides t.point) := by
  have hp := h.invariant
  refine ⟨fun p q => Attachment.enumerant_eq_iff, hp.attached, fun name point info s' hs => ?_⟩
  simp only [Session.step, Option.bind_eq_bind, Option.bind_eq_some_iff, Option.pure_def,
    Option.some.injEq, Prod.mk.injEq, Option.map_eq_some_iff] at hs
  obtain ⟨fb, hfb, ⟨b, ⟨o, ho, hb⟩, rfl⟩, rfl⟩ := hs
  obtain ⟨hvar, hfollow⟩ := follow?_of_find? hfb
  obtain ⟨-, bf, hbf, -, -, hknown⟩ := exists_box_of_follow? hfollow
  have hlatest := hp.told _ bf fb.known hbf (Payload.reads_framebuffer _ _ hknown) point
  obtain ⟨later, t, earlier, rfl, hr, hpoint, hobject, hlater⟩ :=
    Placement.exists_of_latest? (hlatest.symm.trans ho)
  refine ⟨later, t, earlier, rfl, hr ▸ hvar, hpoint, ?_, fun t' ht' hr' => ?_⟩
  · exact (hp.names t (by simp) b (hobject ▸ hb)).symm
  · have hne : t'.point ≠ t.point := hpoint ▸ hlater t' ht' (hr'.trans hr)
    exact Attachment.enumerant_eq_iff.trans (or_iff_right hne)

/-! ## Runs that are given -/

/-- Performs operations in order, and collects what is attached. -/
def place (placed : List Placement) (s : Session (NativeDriver (Recorder γ))) :
    List Op → Option (List Placement × Session (NativeDriver (Recorder γ)))
  | [] => some (placed, s)
  | op :: ops => do
    let (answer, s') ← s.step op
    s'.place ((s.placed? op answer).toList ++ placed) ops

theorem Placing.place {ops : List Op} {placed' : List Placement} (h : Placing config placed s)
    (ho : ∀ op ∈ ops, op.IsOwn ∨ op.Polls) (hs : s.place placed ops = some (placed', s')) :
    Placing config placed' s' := by
  induction ops generalizing placed s with
  | nil =>
      cases hs
      exact h
  | cons op ops ih =>
      simp only [Session.place, Option.bind_eq_bind, Option.bind_eq_some_iff] at hs
      obtain ⟨⟨answer, s₁⟩, hstep, hs⟩ := hs
      exact ih (h.step (ho op List.mem_cons_self) hstep)
        (fun op hm => ho op (List.mem_cons_of_mem _ hm)) hs

/-- A session over a library that gives out the names 1, 2, 3. -/
def scripted : Session (NativeDriver (Recorder Script)) := start ⟨{ library := {} }⟩ {}

/-- A renderbuffer for depth, and then one at a color point, of one framebuffer. -/
def depthAndColor (index : Nat) : List Op :=
  [.create "a" 0 .renderbuffer, .create "b" 0 .renderbuffer, .create "f" 0 (.framebuffer .draw),
    .attachRenderbuffer "f" .depth "a", .attachRenderbuffer "f" (.color index) "b"]

theorem depthAndColor_isOwn (index : Nat) (op : Op) (h : op ∈ depthAndColor index) :
    op.IsOwn ∨ op.Polls := by
  simp only [depthAndColor, List.mem_cons, List.not_mem_nil, or_false] at h
  rcases h with rfl | rfl | rfl | rfl | rfl <;> exact .inl trivial

theorem exists_info {name : String} {point : Attachment} {id : Id}
    (h : (s.step (.attachment name point)).map (fun x => x.1.map (·.id)) = some (some id)) :
    ∃ info, s.step (.attachment name point) = some (some info, s) ∧ info.id = id := by
  obtain ⟨⟨answer, s'⟩, hs, he⟩ := Option.map_eq_some_iff.mp h
  obtain ⟨info, rfl, hid⟩ := Option.map_eq_some_iff.mp he
  obtain ⟨_, -, hsame⟩ := of_lookup hs
  obtain rfl : s' = s := hsame
  exact ⟨info, hs, hid⟩

theorem depthAndColor_apart : ∃ placed s info later t earlier,
    scripted.place [] (depthAndColor 0) = some (placed, s) ∧
    s.step (.attachment "f" .depth) = some (some info, s) ∧ info.id = 1 ∧
    s.driver.library.attached = [(0x8D00, 1), (0x8CE0, 2)] ∧
    placed = later ++ t :: earlier ∧ t.name = 1 ∧
    ∀ t' ∈ later, t'.framebuffer = t.framebuffer → t'.passed.1 ≠ t.passed.1 := by
  have hfound : (scripted.place [] (depthAndColor 0)).map (fun x =>
      ((x.2.step (.attachment "f" .depth)).map (fun y => y.1.map (·.id)),
        x.1.map (·.point), x.2.driver.library.attached)) =
      some (some (some 1), [.color 0, .depth], [(0x8D00, 1), (0x8CE0, 2)]) := by cbv
  obtain ⟨⟨placed, s⟩, hs, he⟩ := Option.map_eq_some_iff.mp hfound
  simp only [Prod.mk.injEq] at he
  obtain ⟨htold, hpoints, hattached⟩ := he
  obtain ⟨info, hinfo, hid⟩ := exists_info htold
  obtain ⟨-, -, hlast⟩ :=
    points_apart_iff (Placing.place (.start _) (depthAndColor_isOwn 0) hs)
  obtain ⟨later, t, earlier, rfl, -, hpoint, hname, hlater⟩ := hlast "f" .depth info s hinfo
  refine ⟨_, s, info, later, t, earlier, hs, hinfo, hid, hattached, rfl, hname.trans hid,
    fun t' ht' hr he => ?_⟩
  have hcollides := (hlater t' ht' hr).mp he
  have hmem : t'.point ∈ ([.color 0, .depth] : List Attachment) :=
    hpoints ▸ List.mem_map_of_mem (List.mem_append_left _ ht')
  rw [hpoint] at hcollides
  simp only [List.mem_cons, List.not_mem_nil, or_false] at hmem
  rcases hmem with hp | hp <;> simp [hp, Attachment.Collides] at hcollides

/-- The color point 32 is the one for depth to the library, where the second renderbuffer takes the
place of the first. The framebuffer tells that both are attached. -/
theorem depthAndColor_collide : ∃ placed s info info',
    scripted.place [] (depthAndColor 32) = some (placed, s) ∧ Placing {} placed s ∧
    Attachment.color 32 ≠ .depth ∧ (Attachment.color 32).enumerant < 2 ^ 32 ∧
    s.step (.attachment "f" .depth) = some (some info, s) ∧ info.id = 1 ∧
    s.step (.attachment "f" (.color 32)) = some (some info', s) ∧ info'.id = 2 ∧
    s.driver.library.attached = [(0x8D00, 1), (0x8D00, 2)] := by
  have hfound : (scripted.place [] (depthAndColor 32)).map (fun x =>
      ((x.2.step (.attachment "f" .depth)).map (fun y => y.1.map (·.id)),
        (x.2.step (.attachment "f" (.color 32))).map (fun y => y.1.map (·.id)),
        x.2.driver.library.attached)) =
      some (some (some 1), some (some 2), [(0x8D00, 1), (0x8D00, 2)]) := by cbv
  obtain ⟨⟨placed, s⟩, hs, he⟩ := Option.map_eq_some_iff.mp hfound
  simp only [Prod.mk.injEq] at he
  obtain ⟨htold, htold', hattached⟩ := he
  obtain ⟨info, hinfo, hid⟩ := exists_info htold
  obtain ⟨info', hinfo', hid'⟩ := exists_info htold'
  exact ⟨placed, s, info, info', hs, Placing.place (.start _) (depthAndColor_isOwn 32) hs, by simp,
    by decide, hinfo, hid, hinfo', hid', hattached⟩

end Session

end GraphicsObjects
