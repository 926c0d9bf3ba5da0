import KvBridge.Proofs.Json.Carried
import KvBridge.Proofs.Json.Written

/-!
# Documents that tell a value

A value of a record is told by many documents. The natural one has a member for each slot, in the
order of the slots. In any other, at any object of any level, slots that have their default may be
left out, the members may stand in any order, and there may be members of names that the record does
not know, whatever documents they hold (`Telling.record`). A value that may be absent is told by
null when it is.

* `Telling`: how the values of a type are told;
* `Telling.Natural`: the natural document of a value tells it, and can be written down;
* `Telling.ReadBy`: a shape reads the value from every document that tells it, at every depth that
  has enough levels left;
* `Record.Mirrors`: a record whose fields are the slots that are told;
* `Record.Mirrors.readBy`: such a record is read from every document that tells it;
* `Telling.Conveys`: the same about the texts of the documents.

A record is read in two steps. First every member is taken in, so that reading succeeds; then each
field shows what was carried for it, which tells the slot or is nothing, and then the slot has its
default (`Telling.part?_of_tells`).
-/

namespace KvBridge.Json

variable {ρ α : Type}

/-! ## Tellings -/

/-- How the values of a type are told by documents: the default, the values that there are, the
natural document of a value, and the documents that tell it. -/
structure Telling (α : Type) where
  default : α
  Fits : α → Prop
  document : α → Doc
  Tells : α → Doc → Prop

namespace Telling

def text : Telling String where
  default := ""
  Fits _ := True
  document s := .text (.ok s)
  Tells s d := d = .text (.ok s)

def flag : Telling Bool where
  default := false
  Fits _ := True
  document b := .bool b
  Tells b d := d = .bool b

/-- A whole number from -2⁶³ to 2⁶³ - 1 is told by its digits. -/
def signed64 : Telling Int where
  default := 0
  Fits n := -0x8000000000000000 ≤ n ∧ n ≤ 0x7FFFFFFFFFFFFFFF
  document n := .number (.ofInt n)
  Tells n d := (-0x8000000000000000 ≤ n ∧ n ≤ 0x7FFFFFFFFFFFFFFF) ∧ d = .number (.ofInt n)

def optional (t : Telling α) : Telling (Option α) where
  default := none
  Fits o := ∀ a, o = some a → t.Fits a
  document o := o.elim .null t.document
  Tells o d := o.elim (d = .null) (t.Tells · d)

def list (t : Telling α) : Telling (List α) where
  default := []
  Fits as := ∀ a ∈ as, t.Fits a
  document as := .array (as.map t.document) none
  Tells as d := ∃ ds, d = .array ds none ∧ List.Forall₂ t.Tells as ds

end Telling

/-! ## Records -/

/-- A slot of a record: its name, how its values are told, and its value in a record. -/
structure Slot (ρ : Type) where
  {type : Type}
  name : String
  telling : Telling type
  get : ρ → type

/-- The natural member for a slot. -/
def Slot.member (slot : Slot ρ) (x : ρ) : Member :=
  .named (.ok slot.name) (slot.telling.document (slot.get x))

/-- The members tell the slots of the record in their order. A slot that has its default may be left
out. -/
inductive TellsSlots (x : ρ) : List (Slot ρ) → List Member → Prop
  | nil : TellsSlots x [] []
  | told {slot : Slot ρ} {slots : List (Slot ρ)} {d : Doc} {ms : List Member}
      (h : slot.telling.Tells (slot.get x) d) (more : TellsSlots x slots ms) :
      TellsSlots x (slot :: slots) (.named (.ok slot.name) d :: ms)
  | left {slot : Slot ρ} {slots : List (Slot ρ)} {ms : List Member}
      (h : slot.get x = slot.telling.default) (more : TellsSlots x slots ms) :
      TellsSlots x (slot :: slots) ms

/-- The member has a name that no slot has, and any document in which reading does not break off. -/
def IsStrange (slots : List (Slot ρ)) (m : Member) : Prop :=
  ∃ name d, m = .named (.ok name) d ∧ (∀ slot ∈ slots, slot.name ≠ name) ∧ d.passOver = .ok ()

/-- Any whole document may stand under a strange name. -/
theorem isStrange_of_isWhole {slots : List (Slot ρ)} {name : String}
    (unknown : ∀ slot ∈ slots, slot.name ≠ name) {d : Doc} (h : d.isWhole) :
    IsStrange slots (.named (.ok name) d) :=
  ⟨name, d, rfl, unknown, d.passOver_of_isWhole h⟩

/-- A record is told by an object. Its members, in any order, are those that tell its slots and any
strange ones. -/
def Telling.record (blank : ρ) (slots : List (Slot ρ)) : Telling ρ where
  default := blank
  Fits x := ∀ slot ∈ slots, slot.telling.Fits (slot.get x)
  document x := .object (slots.map (·.member x)) none
  Tells x d := ∃ ms known strange, d = .object ms none ∧ ms.Perm (known ++ strange) ∧
    TellsSlots x slots known ∧ ∀ m ∈ strange, IsStrange slots m

namespace Telling

/-! ## Natural documents -/

/-- The natural document of a value tells it, and can be written down. -/
def Natural (t : Telling α) : Prop :=
  ∀ a, t.Fits a → t.Tells a (t.document a) ∧ (t.document a).isWhole

theorem natural_text : text.Natural := fun _ _ => ⟨rfl, rfl⟩

theorem natural_flag : flag.Natural := fun _ _ => ⟨rfl, rfl⟩

theorem natural_signed64 : signed64.Natural :=
  fun n fits => ⟨⟨fits, rfl⟩, Numeral.isSpelt_ofInt n⟩

theorem Natural.optional {t : Telling α} (h : t.Natural) : (optional t).Natural
  | none, _ => ⟨rfl, rfl⟩
  | some a, fits => h a (fits a rfl)

theorem Natural.list {t : Telling α} (h : t.Natural) : (list t).Natural := by
  intro as fits
  have items : List.Forall₂ t.Tells as (as.map t.document) ∧
      areWholeItems (as.map t.document) := by
    induction as with
    | nil => exact ⟨.nil, rfl⟩
    | cons a as ih =>
      obtain ⟨tells, whole⟩ := h a (fits a (List.mem_cons_self ..))
      obtain ⟨more, wholes⟩ := ih fun a' h' => fits a' (List.mem_cons_of_mem a h')
      exact ⟨.cons tells more, Bool.and_eq_true_iff.2 ⟨whole, wholes⟩⟩
  exact ⟨⟨_, rfl, items.1⟩, items.2⟩

theorem Natural.record {slots : List (Slot ρ)} (h : ∀ slot ∈ slots, slot.telling.Natural)
    (blank : ρ) : (record blank slots).Natural := by
  intro x fits
  have members : TellsSlots x slots (slots.map (·.member x)) ∧
      areWholeMembers (slots.map (·.member x)) := by
    change ∀ slot ∈ slots, slot.telling.Fits (slot.get x) at fits
    induction slots with
    | nil => exact ⟨.nil, rfl⟩
    | cons slot slots ih =>
      obtain ⟨first, others⟩ := List.forall_mem_cons.1 h
      obtain ⟨fit, fits⟩ := List.forall_mem_cons.1 fits
      obtain ⟨tells, whole⟩ := first _ fit
      obtain ⟨more, wholes⟩ := ih others fits
      exact ⟨.told tells more, Bool.and_eq_true_iff.2 ⟨whole, wholes⟩⟩
  refine ⟨⟨_, _, [], rfl, ?_, members.1, List.forall_mem_nil _⟩, members.2⟩
  rw [List.append_nil]

/-! ## Reading -/

/-- With so many levels left, the shape reads the value from every document that tells it. -/
def ReadBy (t : Telling α) (shape : Shape α) (levels : Nat) : Prop :=
  ∀ depth a d, levels ≤ depth → t.Tells a d → shape depth d = .ok a

variable {levels : Nat}

theorem readBy_text : text.ReadBy Shape.text levels := by
  rintro depth s _ - rfl
  rfl

theorem readBy_flag : flag.ReadBy Shape.flag levels := by
  rintro depth b _ - rfl
  rfl

theorem readBy_signed64 : signed64.ReadBy Shape.signed64 levels := by
  rintro depth n _ - ⟨⟨low, high⟩, rfl⟩
  have whole : (Numeral.ofInt n).read = .ok (.whole n) := by
    rw [Numeral.read, Numeral.number?_ofInt low high]
  simp only [Shape.signed64, Shape.whole, whole]
  exact if_pos ⟨low, high⟩

/-- No value is told by null, which tells that there is none. -/
theorem ReadBy.optional {t : Telling α} {shape : Shape α} (h : t.ReadBy shape levels)
    (null : ∀ a, ¬ t.Tells a .null) : (optional t).ReadBy (Shape.optional shape) levels := by
  intro depth o d enough tells
  cases o with
  | none =>
    cases (show d = .null from tells)
    rfl
  | some a =>
    have read := h depth a d enough tells
    cases d with
    | null => exact absurd tells (null a)
    | _ => exact congrArg (Except.map some) read

theorem readBy_optional_text : (optional text).ReadBy (Shape.optional Shape.text) levels :=
  readBy_text.optional nofun

theorem readBy_optional_signed64 :
    (optional signed64).ReadBy (Shape.optional Shape.signed64) levels :=
  readBy_signed64.optional fun _ tells => nomatch tells.2

theorem ReadBy.list {t : Telling α} {shape : Shape α} (h : t.ReadBy shape levels) :
    (list t).ReadBy (Shape.list shape) (levels + 1) := by
  rintro (_ | depth) as _ enough ⟨ds, rfl, told⟩
  · cases enough
  · have items : ds.mapM (shape depth) = .ok as := by
      induction told with
      | nil => rfl
      | cons tells _ ih =>
        rw [List.mapM_cons, h depth _ _ (Nat.le_of_succ_le_succ enough) tells, ih]
        rfl
    change (do
      let as ← ds.mapM (shape depth)
      reading (keepStop none)
      return as) = _
    rw [items]
    rfl

end Telling

/-! ## Reading records -/

/-- What follows a reading that succeeds. -/
theorem bind_of_ok {β ε : Type} {x : Except ε α} {a : α} (hx : x = .ok a) (f : α → Except ε β) :
    (x >>= f) = f a := by
  rw [hx]
  rfl

namespace Record

variable {r : Record ρ} {depth : Nat} {seen : List String} {acc : ρ} {name : String} {d : Doc}
  {ms : List Member}

/-- A member that is passed over. -/
theorem members_strange (unknown : r.field? name = none) (passed : d.passOver = .ok ()) :
    r.members depth seen acc (.named (.ok name) d :: ms) = r.members depth seen acc ms := by
  rw [members, bind_of_ok (show reading (.ok name) = .ok name from rfl), unknown]
  exact bind_of_ok (congrArg reading passed) _

/-- A member that fills a field. -/
theorem members_known {field : Field ρ} {g : ρ → ρ} (known : r.field? name = some field)
    (fresh : name ∉ seen) (filled : field.fill depth d = .ok g) :
    r.members depth seen acc (.named (.ok name) d :: ms) =
      r.members depth (name :: seen) (g acc) ms := by
  have unseen : ¬ seen.contains name = true := fun stood => fresh (List.contains_iff_mem.1 stood)
  rw [members, bind_of_ok (show reading (.ok name) = .ok name from rfl), known]
  dsimp only
  rw [if_neg unseen]
  exact bind_of_ok filled _

/-- The field that a member has the name of. -/
def known? (r : Record ρ) : Member → Option String
  | .named (.ok name) _ => if (r.field? name).isSome then some name else none
  | .named (.error _) _ | .misnamed _ _ => none

/-- The member can be taken in: it fills a field, or is passed over. -/
def Takes (r : Record ρ) (depth : Nat) (m : Member) : Prop :=
  ∃ name d, m = .named (.ok name) d ∧
    (r.field? name = none ∧ d.passOver = .ok () ∨
      ∃ field g, r.field? name = some field ∧ field.fill depth d = .ok g)

/-- Members that can be taken in, no two of them for one field, are taken in. -/
theorem members_ok (h : ∀ m ∈ ms, r.Takes depth m) (once : (ms.filterMap r.known?).Nodup)
    (fresh : ∀ name ∈ ms.filterMap r.known?, name ∉ seen) (acc : ρ) :
    ∃ out, r.members depth seen acc ms = .ok out := by
  induction ms generalizing seen acc with
  | nil => exact ⟨_, rfl⟩
  | cons m ms ih =>
    obtain ⟨⟨name, d, rfl, takes⟩, others⟩ := List.forall_mem_cons.1 h
    obtain ⟨unknown, passed⟩ | ⟨field, g, known, filled⟩ := takes
    · have none : r.known? (.named (.ok name) d) = none := by rw [known?, unknown]; rfl
      rw [List.filterMap_cons_none none] at once fresh
      rw [members_strange unknown passed]
      exact ih others once fresh acc
    · have some : r.known? (.named (.ok name) d) = some name := by rw [known?, known]; rfl
      rw [List.filterMap_cons_some some] at once fresh
      obtain ⟨new, fresh⟩ := List.forall_mem_cons.1 fresh
      obtain ⟨apart, once⟩ := List.nodup_cons.1 once
      rw [members_known known new filled]
      refine ih others once (fun other mem => List.not_mem_cons_of_ne_of_not_mem ?_ ?_) (g acc)
      · rintro rfl
        exact apart mem
      · exact fresh other mem

/-- The fields are the slots: each has the name of its slot, and a default, and a shape that reads
what tells its values. Filling it sets its value and changes what no other slot shows. -/
inductive FieldsOf (levels : Nat) : List (Field ρ) → List (Slot ρ) → Prop
  | nil : FieldsOf levels [] []
  | cons {type : Type} {name : String} {shape : Shape type} {set : type → ρ → ρ}
      {telling : Telling type} {get : ρ → type} {fields : List (Field ρ)} {slots : List (Slot ρ)}
      (reads : telling.ReadBy shape levels) (get_set : ∀ a x, get (set a x) = a)
      (before : ∀ slot ∈ slots,
        name ≠ slot.name ∧ (Field.defaulted name shape set).Keeps slot.get)
      (after : ∀ field ∈ fields, field.name ≠ name ∧ field.Keeps get)
      (more : FieldsOf levels fields slots) :
      FieldsOf levels (.defaulted name shape set :: fields) (⟨name, telling, get⟩ :: slots)

/-- The record is what its slots show: its fields are the slots, its defaults are theirs, and
records that show the same in every slot are one. -/
structure Mirrors (r : Record ρ) (levels : Nat) (slots : List (Slot ρ)) : Prop where
  fields : FieldsOf levels r.fields slots
  blank : ∀ slot ∈ slots, slot.get r.blank = slot.telling.default
  ext : ∀ x y, (∀ slot ∈ slots, slot.get x = slot.get y) → x = y

/-- A field that shows what tells a slot. -/
def Shows (r : Record ρ) (levels : Nat) (slot : Slot ρ) : Prop :=
  ∃ shape, r.Defaults slot.name shape slot.get ∧ slot.telling.ReadBy shape levels

theorem FieldsOf.shows {levels : Nat} {fields : List (Field ρ)} {slots : List (Slot ρ)}
    (h : FieldsOf levels fields slots) (before : List (Field ρ)) (hr : r.fields = before ++ fields)
    (others : ∀ field ∈ before, ∀ slot ∈ slots, field.name ≠ slot.name ∧ field.Keeps slot.get) :
    ∀ slot ∈ slots, r.Shows levels slot := by
  induction h generalizing before with
  | nil => exact nofun
  | @cons type name shape set telling get fields slots reads get_set keeps after _ ih =>
    refine List.forall_mem_cons.2 ⟨⟨shape, ⟨before, set, fields, hr, get_set, ?_⟩, reads⟩, ?_⟩
    · intro field mem
      obtain mem | mem := List.mem_append.1 mem
      · exact others field mem _ (List.mem_cons_self ..)
      · exact after field mem
    · refine ih (before ++ [.defaulted name shape set]) (by rw [hr, List.append_assoc]; rfl)
        fun field mem slot hs => ?_
      obtain mem | mem := List.mem_append.1 mem
      · exact others field mem slot (List.mem_cons_of_mem _ hs)
      · cases List.mem_singleton.1 mem
        exact keeps slot hs

theorem FieldsOf.names {levels : Nat} {fields : List (Field ρ)} {slots : List (Slot ρ)}
    (h : FieldsOf levels fields slots) : fields.map (·.name) = slots.map (·.name) := by
  induction h with
  | nil => rfl
  | cons _ _ _ _ _ ih => exact congrArg _ ih

theorem FieldsOf.nodup {levels : Nat} {fields : List (Field ρ)} {slots : List (Slot ρ)}
    (h : FieldsOf levels fields slots) : (slots.map (·.name)).Nodup := by
  induction h with
  | nil => exact .nil
  | cons _ _ before _ _ ih =>
    refine List.nodup_cons.2 ⟨fun mem => ?_, ih⟩
    obtain ⟨slot, hs, same⟩ := List.mem_map.1 mem
    exact (before slot hs).1 same.symm

theorem FieldsOf.required {levels : Nat} {fields : List (Field ρ)} {slots : List (Slot ρ)}
    (h : FieldsOf levels fields slots) : ∀ field ∈ fields, field.required = false := by
  induction h with
  | nil => exact nofun
  | cons _ _ _ _ _ ih => exact List.forall_mem_cons.2 ⟨rfl, ih⟩

/-- An object is read when its members are taken in, if no field has to be there. -/
theorem shape_object {x : ρ} (free : ∀ field ∈ r.fields, field.required = false)
    (taken : r.members depth [] r.blank ms = .ok (seen, x)) :
    r.shape (depth + 1) (.object ms none) = .ok x := by
  have complete : r.missing? seen = none := List.find?_eq_none.2 fun field mem => by
    rw [free field mem]
    exact Bool.false_ne_true
  refine (bind_of_ok taken _).trans ?_
  dsimp only
  rw [complete]
  rfl

/-- The field of that name is the one that has the default. -/
theorem Defaults.field?_eq {shape : Shape α} {get : ρ → α} (h : r.Defaults name shape get) :
    ∃ set, r.field? name = some (.defaulted name shape set) := by
  obtain ⟨before, set, after, hr, -, others⟩ := h
  have none : before.find? (·.name == name) = none := List.find?_eq_none.2 fun field mem same =>
    (others field (List.mem_append_left _ mem)).1 (beq_iff_eq.1 same)
  have own : (Field.defaulted name shape set).name == name := beq_self_eq_true name
  exact ⟨set, by rw [field?, hr, List.find?_append, none, Option.none_or, List.find?_cons, own]⟩

end Record

/-! ## What is carried for a slot -/

theorem findSome?_eq_some_of_unique {β γ : Type} {f : β → Option γ} {l : List β} {b : β} {c : γ}
    (mem : b ∈ l) (hb : f b = some c) (unique : ∀ b ∈ l, ∀ c', f b = some c' → c' = c) :
    l.findSome? f = some c := by
  cases hf : l.findSome? f with
  | none => exact absurd hb (by rw [List.findSome?_eq_none_iff.1 hf b mem]; exact nofun)
  | some c' =>
    obtain ⟨b', mem', hb'⟩ := List.exists_of_findSome?_eq_some hf
    rw [unique b' mem' c' hb']

namespace TellsSlots

variable {x : ρ} {slots : List (Slot ρ)} {known : List Member}

theorem named (h : TellsSlots x slots known) {m : Member} (hm : m ∈ known) :
    ∃ slot ∈ slots, ∃ d, m = .named (.ok slot.name) d ∧ slot.telling.Tells (slot.get x) d := by
  induction h with
  | nil => cases hm
  | told tells _ ih =>
    obtain rfl | hm := List.mem_cons.1 hm
    · exact ⟨_, List.mem_cons_self .., _, rfl, tells⟩
    · obtain ⟨slot, hs, rest⟩ := ih hm
      exact ⟨slot, List.mem_cons_of_mem _ hs, rest⟩
  | left _ _ ih =>
    obtain ⟨slot, hs, rest⟩ := ih hm
    exact ⟨slot, List.mem_cons_of_mem _ hs, rest⟩

/-- The members have the names of some of the slots, in their order. -/
theorem names {r : Record ρ} (h : TellsSlots x slots known)
    (fields : ∀ slot ∈ slots, (r.field? slot.name).isSome) :
    (known.filterMap r.known?).Sublist (slots.map (·.name)) := by
  induction h with
  | nil => exact .slnil
  | @told slot _ d _ _ _ ih =>
    obtain ⟨field, others⟩ := List.forall_mem_cons.1 fields
    have own : r.known? (.named (.ok slot.name) d) = some slot.name := by
      rw [Record.known?, if_pos field]
    rw [List.filterMap_cons_some own]
    exact (ih others).cons_cons _
  | left _ _ ih => exact (ih (List.forall_mem_cons.1 fields).2).cons _

/-- No member has the name of another slot. -/
theorem part?_eq_none (h : TellsSlots x slots known) {slot : Slot ρ}
    (new : slot.name ∉ slots.map (·.name)) : ∀ m ∈ known, m.part? slot.name = none := by
  intro m hm
  obtain ⟨slot', hs, d, rfl, -⟩ := h.named hm
  have other : slot'.name ≠ slot.name := fun same => new (List.mem_map.2 ⟨slot', hs, same⟩)
  rw [Member.part?, if_neg other]

/-- A slot is told by one member, or has its default and is told by none. -/
theorem told_or_left (h : TellsSlots x slots known) (once : (slots.map (·.name)).Nodup)
    {slot : Slot ρ} (hs : slot ∈ slots) :
    (∃ d, slot.telling.Tells (slot.get x) d ∧ .named (.ok slot.name) d ∈ known ∧
        ∀ m ∈ known, ∀ d', m.part? slot.name = some d' → d' = d) ∨
      slot.get x = slot.telling.default ∧ ∀ m ∈ known, m.part? slot.name = none := by
  induction h with
  | nil => cases hs
  | @told first slots d ms tells more ih =>
    obtain ⟨new, once⟩ := List.nodup_cons.1 once
    obtain rfl | hs := List.mem_cons.1 hs
    · refine .inl ⟨d, tells, List.mem_cons_self .., List.forall_mem_cons.2 ⟨?_, ?_⟩⟩
      · intro d' hd'
        rw [Member.part?, if_pos rfl] at hd'
        exact (Option.some.inj hd').symm
      · intro m hm d' hd'
        rw [more.part?_eq_none new m hm] at hd'
        cases hd'
    · have other : first.name ≠ slot.name := fun same =>
        new (List.mem_map.2 ⟨slot, hs, same.symm⟩)
      have none : (Member.named (.ok first.name) d).part? slot.name = none := by
        rw [Member.part?, if_neg other]
      obtain ⟨v, tells, mem, unique⟩ | ⟨default, left⟩ := ih once hs
      · refine .inl ⟨v, tells, List.mem_cons_of_mem _ mem, List.forall_mem_cons.2 ⟨?_, unique⟩⟩
        rw [none]
        intro d' hd'
        cases hd'
      · exact .inr ⟨default, List.forall_mem_cons.2 ⟨none, left⟩⟩
  | @left first slots ms default more ih =>
    obtain ⟨new, once⟩ := List.nodup_cons.1 once
    obtain rfl | hs := List.mem_cons.1 hs
    · exact .inr ⟨default, more.part?_eq_none new⟩
    · exact ih once hs

end TellsSlots

namespace Telling

/-- A document that tells a record carries for each slot what tells its value, or nothing, and then
the slot has its default. -/
theorem part?_of_tells {blank x : ρ} {slots : List (Slot ρ)} {d : Doc} (r : Record ρ)
    (h : (Telling.record blank slots).Tells x d) (once : (slots.map (·.name)).Nodup)
    {slot : Slot ρ} (hs : slot ∈ slots) :
    (∃ v, r.part? slot.name d = some v ∧ slot.telling.Tells (slot.get x) v) ∨
      r.part? slot.name d = none ∧ slot.get x = slot.telling.default := by
  obtain ⟨ms, known, strange, rfl, perm, told, stranges⟩ := h
  have strangers : ∀ m ∈ strange, m.part? slot.name = none := by
    intro m hm
    obtain ⟨name, d, rfl, unknown, -⟩ := stranges m hm
    rw [Member.part?, if_neg (unknown slot hs).symm]
  have members : ∀ m ∈ ms, m ∈ known ∨ m ∈ strange := fun m hm =>
    List.mem_append.1 (perm.mem_iff.1 hm)
  obtain ⟨v, tells, mem, unique⟩ | ⟨default, left⟩ := told.told_or_left once hs
  · refine .inl ⟨v, ?_, tells⟩
    refine findSome?_eq_some_of_unique (perm.mem_iff.2 (List.mem_append_left _ mem))
      (by rw [Member.part?, if_pos rfl]) fun m hm v' hv' => ?_
    obtain hm | hm := members m hm
    · exact unique m hm v' hv'
    · rw [strangers m hm] at hv'
      cases hv'
  · refine .inr ⟨List.findSome?_eq_none_iff.2 fun m hm => ?_, default⟩
    exact (members m hm).elim (left m) (strangers m)

/-- A member that tells a slot fills its field. -/
theorem takes_told {r : Record ρ} {depth levels : Nat} (enough : levels ≤ depth) {slot : Slot ρ}
    (shows : r.Shows levels slot) {x : ρ} {d : Doc} (tells : slot.telling.Tells (slot.get x) d) :
    r.Takes depth (.named (.ok slot.name) d) := by
  obtain ⟨shape, defaults, reads⟩ := shows
  obtain ⟨set, field⟩ := defaults.field?_eq
  refine ⟨_, d, rfl, .inr ⟨_, set (slot.get x), field, ?_⟩⟩
  change (shape depth d).map set = _
  rw [reads depth _ d enough tells]
  rfl

/-- A strange member is passed over. -/
theorem takes_strange {r : Record ρ} {levels : Nat} {slots : List (Slot ρ)}
    (fields : Record.FieldsOf levels r.fields slots) {m : Member} (h : IsStrange slots m)
    (depth : Nat) : r.Takes depth m ∧ r.known? m = none := by
  obtain ⟨name, d, rfl, unknown, passed⟩ := h
  have none : r.field? name = none := List.find?_eq_none.2 fun field mem same => by
    have mem : field.name ∈ slots.map (·.name) := fields.names ▸ List.mem_map_of_mem mem
    obtain ⟨slot, hs, named⟩ := List.mem_map.1 mem
    exact unknown slot hs (named.trans (beq_iff_eq.1 same))
  exact ⟨⟨name, d, rfl, .inl ⟨none, passed⟩⟩, by rw [Record.known?, none]; rfl⟩

end Telling

/-- A record is read from every document that tells it. -/
theorem Record.Mirrors.readBy {r : Record ρ} {levels : Nat} {slots : List (Slot ρ)}
    (h : r.Mirrors levels slots) : (Telling.record r.blank slots).ReadBy r.shape (levels + 1) := by
  rintro (_ | depth) x d enough tells
  · cases enough
  have enough : levels ≤ depth := Nat.le_of_succ_le_succ enough
  have shows := h.fields.shows [] rfl nofun
  have part {slot : Slot ρ} (hs : slot ∈ slots) :=
    Telling.part?_of_tells r tells h.fields.nodup hs
  obtain ⟨ms, known, strange, rfl, perm, told, stranges⟩ := tells
  have takes : ∀ m ∈ ms, r.Takes depth m := by
    intro m hm
    obtain hm | hm := List.mem_append.1 (perm.mem_iff.1 hm)
    · obtain ⟨slot, hs, d, rfl, tells⟩ := told.named hm
      exact Telling.takes_told enough (shows slot hs) tells
    · exact (Telling.takes_strange h.fields (stranges m hm) depth).1
  have once : (ms.filterMap r.known?).Nodup := by
    have none : strange.filterMap r.known? = [] := List.filterMap_eq_nil_iff.2 fun m hm =>
      (Telling.takes_strange h.fields (stranges m hm) depth).2
    have fields : ∀ slot ∈ slots, (r.field? slot.name).isSome := fun slot hs => by
      obtain ⟨_, defaults, -⟩ := shows slot hs
      exact Option.isSome_iff_ne_none.2 defaults.field?_ne_none
    rw [(perm.filterMap _).nodup_iff, List.filterMap_append, none, List.append_nil]
    exact (told.names fields).nodup h.fields.nodup
  obtain ⟨⟨seen, y⟩, taken⟩ := Record.members_ok takes once (fun _ _ => List.not_mem_nil) r.blank
  rw [Record.shape_object h.fields.required taken]
  refine congrArg _ (h.ext y x fun slot hs => ?_)
  obtain ⟨shape, defaults, reads⟩ := shows slot hs
  have carried := (defaults.carried_of_members taken).2 List.not_mem_nil
  obtain ⟨v, found, tells⟩ | ⟨none, default⟩ := part hs
  · exact Except.ok.inj ((carried.present v found).symm.trans (reads depth _ v enough tells))
  · rw [carried.absent none, h.blank slot hs, default]

/-- The items of the array that a document carries for a field. -/
def Record.itemsAt (r : Record ρ) (name : String) (d : Doc) : List Doc :=
  match r.part? name d with
  | some (.array ds _) => ds
  | _ => []

/-- A slot that holds a list is told item by item, and by no item where it is left out. -/
theorem Record.Mirrors.tells_itemsAt {r : Record ρ} {levels : Nat} {slots : List (Slot ρ)}
    (h : r.Mirrors levels slots) {x : ρ} {d : Doc}
    (tells : (Telling.record r.blank slots).Tells x d) {name : String} {t : Telling α}
    {get : ρ → List α} (hs : ⟨name, t.list, get⟩ ∈ slots) :
    List.Forall₂ t.Tells (get x) (r.itemsAt name d) := by
  rw [itemsAt]
  obtain ⟨_, found, ds, rfl, items⟩ | ⟨none, default⟩ :=
    Telling.part?_of_tells r tells h.fields.nodup hs
  · rw [found]
    exact items
  · rw [none, show get x = [] from default]
    exact .nil

/-- The shape reads each value from every text of every document that tells it; so it does from the
text that is written down, if the document can be. The natural document of a value is one of them,
and can be written down. -/
structure Telling.Conveys (t : Telling α) (shape : Shape α) : Prop where
  natural : t.Natural
  read : ∀ a d, t.Tells a d → ∀ bs, readDoc bs = (d, false) → shape.read bs = .ok a
  written : ∀ a d, t.Tells a d → d.isWhole → shape.read d.written = .ok a

theorem Telling.ReadBy.conveys {t : Telling α} {shape : Shape α} {levels : Nat}
    (h : t.ReadBy shape levels) (deep : levels ≤ maxDepth) (natural : t.Natural) :
    t.Conveys shape := by
  have read : ∀ a d, t.Tells a d → ∀ bs, readDoc bs = (d, false) → shape.read bs = .ok a := by
    intro a d tells bs shows
    simp only [Shape.read, shows, h maxDepth a d deep tells]
    rfl
  exact ⟨natural, read, fun a d tells whole => read a d tells _ (readDoc_written whole)⟩

end KvBridge.Json
