import KvBridge.Json.Shape

/-!
# What a document carries for a field of a record

A record is read from an object by the names of its members, or from an array by the order of its
fields. Either way a document carries at most one part for a field (`Record.part?`): if it carries
one then the field of the record that is read is that part in the shape of the field, and if it
carries none then the field keeps its default, which need not be told from a part that says the
same (`Record.Defaults.carried_of_read`).

* `Field.Keeps`: a field that leaves another part of a record as it is;
* `Record.Defaults`: a record has a field with a default, and no other field changes it;
* `Record.Carried`: how the value of a field comes from the part that a document carries.
-/

namespace KvBridge.Json

variable {ρ α β : Type}

/-- What follows a reading is read only if the reading succeeds. -/
theorem ok_of_bind {ε : Type} {x : Except ε α} {f : α → Except ε β} {b : β}
    (h : x >>= f = .ok b) : ∃ a, x = .ok a ∧ f a = .ok b := by
  cases x with
  | error e => cases h
  | ok a => exact ⟨a, rfl, h⟩

theorem unexpected_ne_ok (expected : String) (d : Doc) (a : α) : unexpected expected d ≠ .ok a := by
  intro h
  obtain ⟨_, -, ⟨⟩⟩ := ok_of_bind h

/-- What a member carries for a field: its value, if it has the name of the field. -/
def Member.part? (name : String) : Member → Option Doc
  | .named (.ok found) value => if found = name then some value else none
  | .named (.error _) _ | .misnamed _ _ => none

/-- What a document carries for a field of a record: in an object the first member of that name,
in an array the item in the place of the field. -/
def Record.part? (r : Record ρ) (name : String) : Doc → Option Doc
  | .object members _ => members.findSome? (Member.part? name)
  | .array items _ => items[r.fields.findIdx (·.name == name)]?
  | _ => none

/-- Filling the field changes nothing that `get` shows. -/
def Field.Keeps (field : Field ρ) (get : ρ → α) : Prop :=
  ∀ depth d g x, field.fill depth d = .ok g → get (g x) = get x

theorem Field.fill_defaulted {name : String} {shape : Shape β} {set : β → ρ → ρ} {depth : Nat}
    {d : Doc} {g : ρ → ρ} (h : (Field.defaulted name shape set).fill depth d = .ok g) :
    ∃ b, shape depth d = .ok b ∧ g = set b := by
  change (shape depth d).map set = .ok g at h
  cases hb : shape depth d with
  | error problem =>
    rw [hb] at h
    cases h
  | ok b =>
    rw [hb] at h
    cases h
    exact ⟨b, rfl, rfl⟩

theorem Field.keeps_defaulted {name : String} {shape : Shape β} {set : β → ρ → ρ} {get : ρ → α}
    (h : ∀ b x, get (set b x) = get x) : (Field.defaulted name shape set).Keeps get := by
  intro depth d g x hg
  obtain ⟨b, -, rfl⟩ := Field.fill_defaulted hg
  exact h b x

namespace Record

/-- The record has a field of that name and shape, which has a default and is shown by `get`. The
fields before and after it have other names, and change nothing that `get` shows. -/
def Defaults (r : Record ρ) (name : String) (shape : Shape α) (get : ρ → α) : Prop :=
  ∃ before set after, r.fields = before ++ .defaulted name shape set :: after ∧
    (∀ a x, get (set a x) = a) ∧
    ∀ field ∈ before ++ after, field.name ≠ name ∧ field.Keeps get

/-- The value of a field comes from the part that is carried for it, and else is its default. -/
structure Carried (shape : Shape α) (depth : Nat) (default : α) (part? : Option Doc) (a : α) :
    Prop where
  absent : part? = none → a = default
  present : ∀ d, part? = some d → shape depth d = .ok a

variable {r : Record ρ} {name : String} {shape : Shape α} {get : ρ → α}

/-- A member of an object that is read has a name. It is passed over if no field has that name, and
fills the field if it is the first of that name. -/
theorem members_cons {depth : Nat} {seen : List String} {acc : ρ} {m : Member} {ms : List Member}
    {out : List String × ρ} (h : r.members depth seen acc (m :: ms) = .ok out) :
    ∃ found value, m = .named (.ok found) value ∧
      (r.field? found = none ∧ r.members depth seen acc ms = .ok out ∨
        ∃ field g, r.field? found = some field ∧ found ∉ seen ∧ field.fill depth value = .ok g ∧
          r.members depth (found :: seen) (g acc) ms = .ok out) := by
  cases m with
  | misnamed found stop => cases h
  | named literal value =>
    cases literal with
    | error fault => cases h
    | ok found =>
      refine ⟨found, value, rfl, ?_⟩
      rw [members] at h
      obtain ⟨_, ⟨⟩, h⟩ := ok_of_bind h
      cases hf : r.field? found with
      | none =>
        rw [hf] at h
        obtain ⟨_, -, h⟩ := ok_of_bind h
        exact .inl ⟨rfl, h⟩
      | some field =>
        rw [hf] at h
        simp only at h
        split at h
        · cases h
        · rename_i fresh
          obtain ⟨g, hg, h⟩ := ok_of_bind h
          exact .inr ⟨field, g, rfl, fun stood => fresh (List.contains_iff_mem.2 stood), hg, h⟩

theorem of_field? {found : String} {field : Field ρ} (h : r.field? found = some field) :
    field ∈ r.fields ∧ field.name = found := by
  refine ⟨List.mem_of_find?_eq_some h, ?_⟩
  have named := List.find?_some (p := fun field : Field ρ => field.name == found) h
  exact beq_iff_eq.1 named

/-- One step of an array: the fields are filled in their order, and those that are left keep their
defaults. -/
theorem items_cons {depth : Nat} {stop : Option Break} {index : Nat} {field : Field ρ}
    {fields : List (Field ρ)} {ds : List Doc} {acc x : ρ}
    (h : r.items depth stop index (field :: fields) ds acc = .ok x) :
    (ds = [] ∧ r.items depth stop (index + 1) fields [] acc = .ok x) ∨
      ∃ d more g, ds = d :: more ∧ field.fill depth d = .ok g ∧
        r.items depth stop (index + 1) fields more (g acc) = .ok x := by
  cases ds with
  | nil =>
    rw [items] at h
    obtain ⟨_, -, h⟩ := ok_of_bind h
    split at h
    · cases h
    · exact .inl ⟨rfl, h⟩
  | cons d more =>
    rw [items] at h
    obtain ⟨g, hg, h⟩ := ok_of_bind h
    exact .inr ⟨d, more, g, rfl, hg, h⟩

/-- Fields that change nothing of what `get` shows. -/
theorem get_of_items {depth : Nat} {stop : Option Break} {index : Nat} {fields : List (Field ρ)}
    {ds : List Doc} {acc x : ρ} (keeps : ∀ field ∈ fields, field.Keeps get)
    (h : r.items depth stop index fields ds acc = .ok x) : get x = get acc := by
  induction fields generalizing index ds acc with
  | nil =>
    cases ds with
    | nil =>
      rw [items] at h
      obtain ⟨_, -, ⟨⟩⟩ := ok_of_bind h
      rfl
    | cons d more => cases h
  | cons field fields ih =>
    obtain ⟨first, rest⟩ := List.forall_mem_cons.1 keeps
    obtain ⟨-, h⟩ | ⟨d, more, g, -, hg, h⟩ := items_cons h
    · exact ih rest h
    · exact (ih rest h).trans (first _ _ _ _ hg)

/-- From the items of an array: the one in the place of the field fills it, and no other does. -/
theorem carried_of_items {depth : Nat} {stop : Option Break} {index : Nat} {ds : List Doc}
    {acc x : ρ} {before after : List (Field ρ)} {set : α → ρ → ρ}
    (get_set : ∀ a x, get (set a x) = a) (befores : ∀ field ∈ before, field.Keeps get)
    (afters : ∀ field ∈ after, field.Keeps get)
    (h : r.items depth stop index (before ++ .defaulted name shape set :: after) ds acc = .ok x) :
    Carried shape depth (get acc) ds[before.length]? (get x) := by
  induction before generalizing index ds acc with
  | nil =>
    obtain ⟨rfl, hi⟩ | ⟨d, more, g, rfl, hg, hi⟩ := items_cons h
    · exact ⟨fun _ => get_of_items afters hi, nofun⟩
    · obtain ⟨a, ha, rfl⟩ := Field.fill_defaulted hg
      refine ⟨nofun, ?_⟩
      rintro _ ⟨⟩
      rw [get_of_items afters hi, get_set, ha]
  | cons field before ih =>
    obtain ⟨first, rest⟩ := List.forall_mem_cons.1 befores
    obtain ⟨rfl, hi⟩ | ⟨d, more, g, rfl, hg, hi⟩ := items_cons h
    · exact ih rest hi
    · have carried := ih rest hi
      rw [first _ _ _ _ hg] at carried
      exact carried

namespace Defaults

/-- The field of that name is the one that is shown, and the fields of other names show nothing. -/
theorem fill_cases (h : r.Defaults name shape get) {found : String} {field : Field ρ}
    (hf : r.field? found = some field) {depth : Nat} {d : Doc} {g : ρ → ρ}
    (hg : field.fill depth d = .ok g) (x : ρ) :
    (found = name → shape depth d = .ok (get (g x))) ∧ (found ≠ name → get (g x) = get x) := by
  obtain ⟨before, set, after, hr, get_set, others⟩ := h
  obtain ⟨mem, rfl⟩ := of_field? hf
  rw [hr, List.mem_append, List.mem_cons] at mem
  rcases mem with mem | rfl | mem
  · obtain ⟨other, keeps⟩ := others field (List.mem_append_left _ mem)
    exact ⟨fun same => absurd same other, fun _ => keeps _ _ _ _ hg⟩
  · obtain ⟨a, ha, rfl⟩ := Field.fill_defaulted hg
    exact ⟨fun _ => by rw [ha, get_set], fun other => absurd rfl other⟩
  · obtain ⟨other, keeps⟩ := others field (List.mem_append_right _ mem)
    exact ⟨fun same => absurd same other, fun _ => keeps _ _ _ _ hg⟩

theorem field?_ne_none (h : r.Defaults name shape get) : r.field? name ≠ none := by
  obtain ⟨before, set, after, hr, -⟩ := h
  intro none
  have own : Field.defaulted name shape set ∈ r.fields :=
    hr ▸ List.mem_append_right _ (List.mem_cons_self ..)
  exact List.find?_eq_none.1 none _ own (beq_iff_eq.2 rfl)

/-- From the items of an array. -/
theorem carried_of_items (h : r.Defaults name shape get) {depth : Nat} {stop : Option Break}
    {index : Nat} {ds : List Doc} {acc x : ρ}
    (hi : r.items depth stop index r.fields ds acc = .ok x) :
    Carried shape depth (get acc) ds[r.fields.findIdx (·.name == name)]? (get x) := by
  obtain ⟨before, set, after, hr, get_set, others⟩ := h
  have own : (Field.defaulted name shape set).name == name := beq_self_eq_true name
  have place : r.fields.findIdx (·.name == name) = before.length := by
    have none : ¬ before.findIdx (·.name == name) < before.length := by
      intro lt
      obtain ⟨field, hf, named⟩ := List.findIdx_lt_length.1 lt
      exact (others field (List.mem_append_left _ hf)).1 (beq_iff_eq.1 named)
    rw [hr, List.findIdx_append, if_neg none, List.findIdx_cons, own, cond_true, Nat.zero_add]
  rw [place]
  rw [hr] at hi
  exact Record.carried_of_items get_set
    (fun field hf => (others field (List.mem_append_left _ hf)).2)
    (fun field hf => (others field (List.mem_append_right _ hf)).2) hi

/-- From the members of an object: the first of that name fills the field, and no other does. -/
theorem carried_of_members (h : r.Defaults name shape get) {depth : Nat} {ms : List Member}
    {seen seen' : List String} {acc x : ρ} (hm : r.members depth seen acc ms = .ok (seen', x)) :
    (name ∈ seen → get x = get acc) ∧
      (name ∉ seen → Carried shape depth (get acc) (ms.findSome? (Member.part? name)) (get x)) := by
  induction ms generalizing seen acc with
  | nil =>
    cases hm
    exact ⟨fun _ => rfl, fun _ => ⟨fun _ => rfl, nofun⟩⟩
  | cons m ms ih =>
    obtain ⟨found, value, rfl, ⟨unknown, hm⟩ | ⟨field, g, hf, fresh, hg, hm⟩⟩ := members_cons hm
    · have other : found ≠ name := by
        rintro rfl
        exact h.field?_ne_none unknown
      rw [List.findSome?_cons, Member.part?, if_neg other]
      exact ih hm
    · obtain ⟨fills, keeps⟩ := h.fill_cases hf hg acc
      by_cases same : found = name
      · subst same
        refine ⟨fun stood => absurd stood fresh, fun _ => ?_⟩
        rw [List.findSome?_cons, Member.part?, if_pos rfl]
        refine ⟨nofun, ?_⟩
        rintro _ ⟨⟩
        rw [(ih hm).1 (List.mem_cons_self ..)]
        exact fills rfl
      · have stood : name ∈ found :: seen ↔ name ∈ seen := by
          rw [List.mem_cons, or_iff_right (Ne.symm same)]
        rw [List.findSome?_cons, Member.part?, if_neg same, ← keeps same, ← stood]
        exact ih hm

/-- From a document: what it carries fills the field. -/
theorem carried_of_shape (h : r.Defaults name shape get) {depth : Nat} {d : Doc} {x : ρ}
    (hd : r.shape (depth + 1) d = .ok x) :
    Carried shape depth (get r.blank) (r.part? name d) (get x) := by
  cases d with
  | object members stop =>
    obtain ⟨⟨seen, acc⟩, hm, hd⟩ := ok_of_bind hd
    obtain ⟨_, -, hd⟩ := ok_of_bind hd
    split at hd
    · cases hd
    · cases hd
      exact (h.carried_of_members hm).2 List.not_mem_nil
  | array items stop => exact h.carried_of_items hd
  | null | bool | number | text | broken => exact absurd hd (unexpected_ne_ok _ _ x)

/-- From a text: what the document carries that it shows fills the field. -/
theorem carried_of_read (h : r.Defaults name shape get) {bs : Bytes} {x : ρ}
    (hx : r.shape.read bs = .ok x) :
    Carried shape (maxDepth - 1) (get r.blank) (r.part? name (readDoc bs).1) (get x) := by
  rw [Shape.read] at hx
  generalize readDoc bs = read at hx ⊢
  obtain ⟨a, ha, hx⟩ := ok_of_bind hx
  split at hx
  · cases hx
  · cases hx
    exact h.carried_of_shape ha

end Defaults

end Record

end KvBridge.Json
