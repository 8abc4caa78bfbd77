import GraphicsObjects.Proofs.Native.Transfers
import GraphicsObjects.Proofs.Text.Utf8

/-!
# Texts read from the library

Logs and names of active variables are read in two calls: one asks how long the text may be, and the
next has it put into a buffer of that size. Neither length is believed beyond the buffer.
-/

namespace GraphicsObjects.Native

open Text (decodeUtf8Lossy encodeUtf8)

/-! ## Buffers -/

/-- A zeroed buffer of `size` bytes after `stored` was put into it. -/
def filled (size : Nat) (stored : Bytes) : Bytes :=
  stored.take size ++ List.replicate (size - stored.length) 0

@[simp] theorem length_filled (size : Nat) (stored : Bytes) :
    (filled size stored).length = size := by
  simp only [filled, List.length_append, List.length_take, List.length_replicate]
  omega

theorem take_filled {n size : Nat} (h : n ≤ size) (stored : Bytes) :
    (filled size stored).take n = stored.take n ++ List.replicate (n - stored.length) 0 := by
  rw [filled, List.take_append, List.take_take, List.take_replicate, List.length_take]
  congr 2 <;> omega

theorem take_filled_of_le {n size : Nat} {stored : Bytes} (h : n ≤ size) (hn : n ≤ stored.length) :
    (filled size stored).take n = stored.take n := by
  rw [take_filled h, Nat.sub_eq_zero_of_le hn, List.replicate_zero, List.append_nil]

theorem bufferText_eq (size : Nat) (stored : Bytes) (length : Int) :
    bufferText size stored length =
      decodeUtf8Lossy ((filled size stored).take (min (max length 0).toNat size)) := by
  have hused : (max length 0).toNat = length.toNat := by omega
  rw [hused, take_filled (Nat.min_le_right ..)]
  rfl

theorem bufferSize_pos (announced : Int) : 1 ≤ bufferSize announced := by
  unfold bufferSize
  omega

/-- The size of a buffer is passed as it is. -/
theorem signed32_bufferSize {announced : Int} (h : announced < 2 ^ 31) :
    signed32 (bufferSize announced) = bufferSize announced := by
  unfold signed32 bufferSize
  rw [Int.bmod_eq_of_le] <;> omega

/-! ## Readings -/

/-- A text as it was read: the length that was announced, if any was, what was then stored, the
buffer after that, and the text that was made of it. -/
structure Reading where
  announced : Option Int
  stored : StoredText
  buffer : Bytes
  text : String

namespace Reading

/-- The variable for the length after both calls. It holds `unwritten` before the second. -/
def length (r : Reading) (unwritten : Int) : Int := r.stored.length.getD unwritten

/-- The text is what the bytes of the buffer say that the length covers. The buffer is as long as
was announced, has at least one byte, and no more than a signed 32-bit number can tell. -/
structure Bounded (r : Reading) (unwritten : Int) : Prop where
  allocated : r.buffer.length = bufferSize (r.announced.getD 0)
  nonempty : 1 ≤ r.buffer.length
  sized : r.announced.getD 0 < 2 ^ 31 → signed32 r.buffer.length = r.buffer.length
  memory : r.buffer = filled r.buffer.length r.stored.stored
  decoded : r.text = decodeUtf8Lossy
    (r.buffer.take (min (max (r.length unwritten) 0).toNat r.buffer.length))

/-- Where the announced length leaves room for a text and its closing zero, or is 0 and the text
empty, and the text is stored so and its length reported, that text was read. -/
def Faithful (r : Reading) : Prop :=
  ∀ t : String,
    t.utf8ByteSize + 1 ≤ r.announced.getD 0 ∨ r.announced.getD 0 = 0 ∧ t = "" →
    encodeUtf8 t ++ [0] <+: r.stored.stored → r.stored.length = some ↑t.utf8ByteSize → r.text = t

/-- The text read into a buffer for the announced length. -/
def ofStored (announced : Option Int) (stored : StoredText) (unwritten : Int) : Reading :=
  let size := bufferSize (announced.getD 0)
  { announced, stored, buffer := filled size stored.stored
    text := bufferText size stored.stored (stored.length.getD unwritten) }

theorem bounded_ofStored (announced : Option Int) (stored : StoredText) (unwritten : Int) :
    (ofStored announced stored unwritten).Bounded unwritten where
  allocated := length_filled ..
  nonempty := (bufferSize_pos _).trans_eq (length_filled ..).symm
  sized h := by
    simp only [ofStored, length_filled]
    exact signed32_bufferSize h
  memory := by simp only [ofStored, length_filled]
  decoded := by
    simp only [ofStored, length_filled]
    exact bufferText_eq ..

/-- A text that fits is not cut. -/
theorem Bounded.faithful {r : Reading} {unwritten : Int} (h : r.Bounded unwritten) :
    r.Faithful := by
  intro t hroom hstored hlength
  have hprefix : encodeUtf8 t <+: r.stored.stored := (List.prefix_append _ _).trans hstored
  have hsize : (encodeUtf8 t).length ≤ r.buffer.length := by
    rw [Text.length_encodeUtf8, h.allocated, bufferSize]
    rcases hroom with hroom | ⟨-, rfl⟩
    · omega
    · exact Nat.zero_le _
  have hused : min (max (r.length unwritten) 0).toNat r.buffer.length =
      (encodeUtf8 t).length := by
    rw [length, hlength, Option.getD_some, Text.length_encodeUtf8] at *
    omega
  rw [h.decoded, hused, h.memory, take_filled_of_le hsize hprefix.length_le,
    ← List.prefix_iff_eq_take.mp hprefix, Text.decodeUtf8Lossy_encodeUtf8]

end Reading

/-! ## Requests -/

variable {γ : Type} [EntryPoints γ]

/-- The driver serves `q` by the calls `xs`, answers `a` and logs nothing. -/
def Responds (d : NativeDriver (Transcript γ)) (q : Request) (a : q.Answer)
    (xs : List Exchange) : Prop :=
  ∃ d' : NativeDriver (Transcript γ),
    Driver.perform q d = { answer := a, driver := d', events := [] } ∧
      d'.library.exchanges = d.library.exchanges ++ xs

/-- A request that is served by asking for a length and then for a text of that length. -/
theorem reading_of_exchanges {d d' : NativeDriver (Transcript γ)} (q : Request)
    (answer : String → q.Answer) (announce : Option Int → Exchange)
    (ask : Int → StoredText → Exchange) (unwritten : Option Int → Int) {announced : Option Int}
    {stored : StoredText}
    (hperform : Driver.perform q d =
      { answer := answer (bufferText (bufferSize (announced.getD 0)) stored.stored
          (stored.length.getD (unwritten announced))), driver := d', events := [] })
    (hexchanges : d'.library.exchanges = (d.library.exchanges ++ [announce announced]) ++
      [ask (bufferSize (announced.getD 0)) stored]) :
    ∃ r : Reading, r.Bounded (unwritten r.announced) ∧ r.Faithful ∧
      Responds d q (answer r.text) [announce r.announced, ask r.buffer.length r.stored] := by
  have h := Reading.bounded_ofStored announced stored (unwritten announced)
  refine ⟨_, h, h.faithful, d', hperform, ?_⟩
  rw [hexchanges, List.append_assoc, h.allocated]
  rfl

/-- Whatever the library answers: a log or the name of an active variable is what the bytes say
that were stored in a buffer whose size was passed, cut at the length that was reported. Where the
library leaves that length alone, it is the announced one for a log and 0 for a name. A text for
which there is room is read as it was stored. -/
theorem texts_are_read (d : NativeDriver (Transcript γ)) :
    (∀ shader, ∃ r : Reading, r.Bounded (r.announced.getD 0) ∧ r.Faithful ∧
      Responds d (.shaderInfoLog shader) r.text
        [⟨.getShader shader Enumerant.infoLogLength, r.announced⟩,
          ⟨.getShaderInfoLog shader r.buffer.length, r.stored⟩]) ∧
    (∀ program, ∃ r : Reading, r.Bounded (r.announced.getD 0) ∧ r.Faithful ∧
      Responds d (.programInfoLog program) r.text
        [⟨.getProgram program Enumerant.infoLogLength, r.announced⟩,
          ⟨.getProgramInfoLog program r.buffer.length, r.stored⟩]) ∧
    (∀ program index, ∃ r : Reading, ∃ type size, r.Bounded 0 ∧ r.Faithful ∧
      Responds d (.activeUniform program index)
        { name := r.text, type := type.getD 0, size := size.getD 0 }
        [⟨.getProgram program Enumerant.activeUniformMaxLength, r.announced⟩,
          ⟨.getActiveUniform program index r.buffer.length, { name := r.stored, size, type }⟩]) ∧
    (∀ program index, ∃ r : Reading, ∃ type size, r.Bounded 0 ∧ r.Faithful ∧
      Responds d (.activeAttribute program index)
        { name := r.text, type := type.getD 0, size := size.getD 0 }
        [⟨.getProgram program Enumerant.activeAttributeMaxLength, r.announced⟩,
          ⟨.getActiveAttrib program index r.buffer.length, { name := r.stored, size, type }⟩]) := by
  refine ⟨fun shader => ?_, fun program => ?_, fun program index => ?_, fun program index => ?_⟩
  · exact reading_of_exchanges (.shaderInfoLog shader) id
      (fun a => ⟨.getShader shader Enumerant.infoLogLength, a⟩)
      (fun size t => ⟨.getShaderInfoLog shader size, t⟩) (·.getD 0) rfl rfl
  · exact reading_of_exchanges (.programInfoLog program) id
      (fun a => ⟨.getProgram program Enumerant.infoLogLength, a⟩)
      (fun size t => ⟨.getProgramInfoLog program size, t⟩) (·.getD 0) rfl rfl
  · let asked := programParameter program Enumerant.activeUniformMaxLength (d.library, [])
    let v : StoredVariable :=
      (call (.getActiveUniform program index (bufferSize asked.1)) asked.2).1
    obtain ⟨r, h⟩ := reading_of_exchanges (.activeUniform program index)
      (fun name => { name, type := v.type.getD 0, size := v.size.getD 0 })
      (fun a => ⟨.getProgram program Enumerant.activeUniformMaxLength, a⟩)
      (fun size t => ⟨.getActiveUniform program index size, { v with name := t }⟩)
      (fun _ => 0) (d := d) rfl rfl
    exact ⟨r, _, _, h⟩
  · let asked := programParameter program Enumerant.activeAttributeMaxLength (d.library, [])
    let v : StoredVariable :=
      (call (.getActiveAttrib program index (bufferSize asked.1)) asked.2).1
    obtain ⟨r, h⟩ := reading_of_exchanges (.activeAttribute program index)
      (fun name => { name, type := v.type.getD 0, size := v.size.getD 0 })
      (fun a => ⟨.getProgram program Enumerant.activeAttributeMaxLength, a⟩)
      (fun size t => ⟨.getActiveAttrib program index size, { v with name := t }⟩)
      (fun _ => 0) (d := d) rfl rfl
    exact ⟨r, _, _, h⟩

end GraphicsObjects.Native
