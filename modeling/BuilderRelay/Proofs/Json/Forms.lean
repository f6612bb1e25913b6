import BuilderRelay.Proofs.Json.Numbers
import BuilderRelay.Proofs.Json.Skipping

/-!
# Forms of values

A form says how the values of a type are written: which texts stand for a value, and which do not
because of a member that is there twice or not at all. Forms of objects are made of the forms of
their members, which may stand in any order, with others between them. A reader reads by a form if
it takes the value from each of its texts, with space before it, and refuses the faulty ones.
-/

namespace BuilderRelay.Json

open Utf8

variable {α : Type}

structure Form (α : Type) where
  spells : α → Bytes → Prop
  /-- What looks like an object of the type, but has a member twice or lacks one. -/
  faulty : Bytes → Prop := fun _ => False

namespace Form

def plain (text : α → String) : Form α where
  spells a t := t = encode (text a)

def boolean : Form Bool := plain Json.boolean

def number : Form UInt64 := plain fun n => toString n.toNat

def string : Form String where
  spells := StringText

def quotedNumber : Form UInt64 where
  spells n t := StringText (toString n.toNat) t

def bytes (n : Nat) : Form (ByteVector n) where
  spells v t := ∃ s, HexText v.toList (encode s) ∧ StringText s t

end Form

/-! ## Objects -/

/-- A member that stands for a part of a value, and what the part is without the member. -/
structure Entry (α : Type) where
  {β : Type}
  name : String
  part : α → β
  form : Form β
  default : Option β := none

def texts (ms : List Member) (name : String) : List Bytes :=
  (ms.filter (·.1 = name)).map (·.2)

/-- Members that no entry asks for have any value at all. -/
def OthersAreValues (entries : List (Entry α)) (ms : List Member) : Prop :=
  ∀ m ∈ ms, m.1 ∉ entries.map (·.name) → IsValue m.2

/-- Members that stand for `a`, whatever their order: there is one for each entry, or none if the
part is what it is without the member. -/
structure Spells (entries : List (Entry α)) (a : α) (ms : List Member) : Prop where
  entry : ∀ e ∈ entries, texts ms e.name = [] ∧ e.default = some (e.part a) ∨
    ∃ t, texts ms e.name = [t] ∧ e.form.spells (e.part a) t
  other : OthersAreValues entries ms

/-- What is wrong with an entry: it is there twice, or not although it has to be, or is itself at
fault. -/
def Entry.Faulty (e : Entry α) (ms : List Member) : Prop :=
  2 ≤ (texts ms e.name).length ∨ texts ms e.name = [] ∧ e.default = none ∨
    ∃ t ∈ texts ms e.name, e.form.faulty t

/-- Members of which something is wrong with one, while each stands for some part or is at fault. -/
structure Faulty (entries : List (Entry α)) (ms : List Member) : Prop where
  entry : ∀ e ∈ entries, ∀ t ∈ texts ms e.name, (∃ b, e.form.spells b t) ∨ e.form.faulty t
  other : OthersAreValues entries ms
  fault : ∃ e ∈ entries, e.Faulty ms

def Form.object (entries : List (Entry α)) : Form α where
  spells a t := ∃ ms, ObjectText ms t ∧ Spells entries a ms
  faulty t := ∃ ms, ObjectText ms t ∧ Faulty entries ms

/-! ## Reading by a form -/

/-- The reader takes from each text of the form what it stands for, and refuses faulty texts, if
what follows the text is as `ends` asks. -/
structure Form.ReadBy (F : Form α) (r : Reader α) (ends : Bytes → Prop) : Prop where
  reads : ∀ {a t w tail}, F.spells a t → IsSpace w → ends tail →
    r ⟨w ++ (t ++ tail), none⟩ = .ok (a, ⟨tail, none⟩)
  refuses : ∀ {t w tail}, F.faulty t → IsSpace w → ends tail →
    ∃ fault, r ⟨w ++ (t ++ tail), none⟩ = .error fault

theorem Form.ReadBy.mono {F : Form α} {r : Reader α} {ends ends' : Bytes → Prop}
    (h : F.ReadBy r ends) (himp : ∀ tail, ends' tail → ends tail) : F.ReadBy r ends' where
  reads hspells hw htail := h.reads hspells hw (himp _ htail)
  refuses hfaulty hw htail := h.refuses hfaulty hw (himp _ htail)

theorem Form.ReadBy.eq_of_spells {F : Form α} {r : Reader α} (h : F.ReadBy r Delimited) {a a' : α}
    {t : Bytes} (ha : F.spells a t) (ha' : F.spells a' t) : a = a' := by
  have hread := h.reads ha .nil delimited_nil
  rw [h.reads ha' .nil delimited_nil] at hread
  exact (Prod.mk.inj (Except.ok.inj hread)).1.symm

theorem Form.ReadBy.not_faulty {F : Form α} {r : Reader α} (h : F.ReadBy r Delimited) {a : α}
    {t : Bytes} (ha : F.spells a t) : ¬ F.faulty t := by
  intro hfaulty
  obtain ⟨fault, hread⟩ := h.refuses hfaulty .nil delimited_nil
  rw [h.reads ha .nil delimited_nil] at hread
  cases hread

/-- Space before a value makes no difference to the reader. -/
def SkipsSpace (r : Reader α) : Prop :=
  ∀ {w : Bytes} (rest : Bytes), IsSpace w → r ⟨w ++ rest, none⟩ = r ⟨rest, none⟩

theorem peek_append {w : Bytes} (h : IsSpace w) (rest : Bytes) :
    Reader.peek (w ++ rest) = Reader.peek rest := by
  rw [Reader.peek, skipBlank_append h, ← Reader.peek]

theorem plain_readBy {r : Reader α} {text : α → String} (hskips : SkipsSpace r)
    (hreads : ∀ a, Reads r (text a) a) : (Form.plain text).ReadBy r Delimited where
  reads := by
    rintro a t w tail rfl hw htail
    rw [hskips _ hw, (hreads a).reads tail htail]
  refuses hfaulty := hfaulty.elim

theorem boolean_readBy : Form.boolean.ReadBy Reader.boolean Delimited := by
  refine plain_readBy (fun rest hw => ?_) reads_boolean
  simp only [Reader.boolean, Reader.lift, Reader.fail, peek_append hw]

theorem number_readBy : Form.number.ReadBy Reader.uint64 Delimited := by
  refine plain_readBy (fun rest hw => ?_) reads_uint64
  simp only [Reader.uint64, Reader.map, Reader.unsigned, Reader.lift, Reader.fail, peek_append hw]

/-- A string that stands for a value is read, whatever follows it. -/
theorem stringAs_text {convert : String → Except Misfit α} {s : String} {a : α} {t w : Bytes}
    (ht : StringText s t) (hconvert : convert s = .ok a) (hw : IsSpace w) (tail : Bytes) :
    Reader.stringAs convert ⟨w ++ (t ++ tail), none⟩ = .ok (a, ⟨tail, none⟩) := by
  obtain ⟨hbody⟩ := ht
  have hread := readString_charsText hbody tail
  simp only [Reader.stringAs, Reader.lift, peek_append hw, List.cons_append, List.append_assoc,
    List.nil_append, peek_cons (b := 0x22) (by decide), bind, Except.bind, if_true, hread,
    hconvert, pure, Except.pure]

theorem string_readBy : Form.string.ReadBy Reader.string Delimited where
  reads hspells hw _ := stringAs_text hspells rfl hw _
  refuses hfaulty := hfaulty.elim

theorem quotedNumber_readBy : Form.quotedNumber.ReadBy Reader.quotedUInt64 Delimited where
  reads {n _ _ _} hspells hw _ := by
    apply stringAs_text hspells _ hw
    rw [Text.readUInt64_toString]
    rfl
  refuses hfaulty := hfaulty.elim

theorem bytes_readBy (n : Nat) : (Form.bytes n).ReadBy (Reader.byteField n) Delimited where
  reads := by
    rintro v t w tail ⟨s, hhex, ht⟩ hw -
    rw [← stringAs_text ht (hexField_hexText hhex) hw tail]
    obtain ⟨hbody⟩ := ht
    simp only [Reader.byteField, peek_append hw, List.cons_append,
      peek_cons (b := 0x22) (by decide), if_true]
  refuses hfaulty := hfaulty.elim

/-! ## What is written -/

theorem spells_quotedNumber (n : UInt64) :
    Form.quotedNumber.spells n (encode (Json.quotedNumber n.toNat)) := by
  rw [quotedNumber_eq]
  exact stringText_quoted _

theorem spells_encodePrefixed {n : Nat} (v : ByteVector n) :
    (Form.bytes n).spells v (encode (quoted (Hex.encodePrefixed v.toList))) :=
  ⟨_, hexText_encodePrefixed _, stringText_quoted _⟩

end BuilderRelay.Json
