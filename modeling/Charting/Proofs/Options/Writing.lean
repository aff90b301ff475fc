import Charting.Options.Resolved

/-!
# Writing below a path

A write changes what lies at a path, and makes objects on the way to it. Writes at one path are a
single write, and writes that part at the first key can be exchanged, once the key is there that
would otherwise take its place behind the other one.
-/

namespace Charting

namespace Entries

variable {α : Type} {key other : String} {f g : Option α → α} {entries : Entries α}

theorem update_update :
    update key f (update key g entries) = update key (fun v => f (some (g v))) entries := by
  induction entries with
  | nil => simp [update]
  | cons entry rest ih =>
      obtain ⟨k, v⟩ := entry
      by_cases hk : k = key
      · simp [update, hk]
      · simp [update, hk, ih]

theorem update_comm (h : key ≠ other) (present : key ∈ keys entries) :
    update key f (update other g entries) = update other g (update key f entries) := by
  induction entries with
  | nil => cases present
  | cons entry rest ih =>
      obtain ⟨k, v⟩ := entry
      by_cases hk : k = key
      · have ho : k ≠ other := fun he => h (hk.symm.trans he)
        simp [update, hk, h]
      · have later : key ∈ keys rest := by simpa [keys, Ne.symm hk] using present
        by_cases ho : k = other
        · simp [update, ho, Ne.symm h]
        · simp [update, hk, ho, ih later]

theorem update_eq_self {v : α} (found : get? entries key = some v) (same : f (some v) = v) :
    update key f entries = entries := by
  induction entries with
  | nil => cases found
  | cons entry rest ih =>
      obtain ⟨k, v'⟩ := entry
      by_cases hk : k = key
      · simp only [get?, hk, ↓reduceIte, Option.some.injEq] at found
        simp [update, hk, found, same]
      · simp only [get?, hk, ↓reduceIte] at found
        simp [update, hk, ih found]

theorem length_update :
    (update key f entries).length =
      if key ∈ keys entries then entries.length else entries.length + 1 := by
  have h := congrArg List.length (keys_update key f entries)
  by_cases present : key ∈ keys entries
  · rw [if_pos present] at h ⊢
    simpa [keys] using h
  · rw [if_neg present] at h ⊢
    simpa [keys] using h

end Entries

namespace OptionTree

@[simp] theorem fields_obj (entries : OptionMap) : (OptionTree.obj entries).fields = entries := rfl

/-- Changes what lies at a list of keys, starting from an empty object where there is nothing. -/
def alter (t : OptionTree) (path : List String) (f : OptionTree → OptionTree) : OptionTree :=
  match path with
  | [] => f t
  | key :: rest =>
    .obj (Entries.update key (fun child => (child.getD (.obj [])).alter rest f) t.fields)

variable {t : OptionTree} {key other : String} {path rest : List String}
  {f f' g g' : OptionTree → OptionTree}

theorem put_eq_alter (value : OptionTree) : t.put path value = t.alter path fun _ => value := by
  induction path generalizing t with
  | nil => rfl
  | cons key rest ih => simp only [put, alter, ih]

theorem alter_append (more : List String) :
    t.alter (path ++ more) f = t.alter path fun u => u.alter more f := by
  induction path generalizing t with
  | nil => rfl
  | cons key rest ih => simp only [List.cons_append, alter, ih]

theorem alter_alter : (t.alter path g).alter path f = t.alter path fun u => f (g u) := by
  induction path generalizing t with
  | nil => rfl
  | cons key rest ih =>
      simp only [alter, fields_obj, Option.getD_some, Entries.update_update, ih]

theorem get?_alter_cons :
    (t.alter (key :: rest) f).get? other =
      if key = other then some (((t.get? key).getD (.obj [])).alter rest f) else t.get? other := by
  simp only [alter, get?, fields_obj, Entries.get?_update]

theorem get?_alter_of_ne (h : key ≠ other) : (t.alter (key :: rest) f).get? other = t.get? other := by
  rw [get?_alter_cons, if_neg h]

/-- Writes that part at the first key, of which the earlier one has its key in place. -/
theorem alter_comm (h : key ≠ other) (present : (t.get? key).isSome) {more : List String} :
    (t.alter (other :: more) g).alter (key :: rest) f =
      (t.alter (key :: rest) f).alter (other :: more) g := by
  simp only [alter, fields_obj]
  rw [Entries.update_comm h (Entries.mem_keys_iff.mpr present)]

/-- A pair of writes overwrites the same pair of writes. -/
theorem alter_pair (h : key ≠ other) {more : List String} :
    (((t.alter (key :: rest) f).alter (other :: more) g).alter (key :: rest) f').alter
        (other :: more) g' =
      (t.alter (key :: rest) fun u => f' (f u)).alter (other :: more) fun u => g' (g u) := by
  rw [alter_comm h (by simp [get?_alter_cons]), alter_alter, alter_alter]

/-- Writing what is there changes nothing, not even an order of keys. -/
theorem alter_eq_self {u : OptionTree} (found : t.find? path = some u) (same : f u = u) :
    t.alter path f = t := by
  induction path generalizing t with
  | nil =>
      obtain rfl := Option.some.inj found
      exact same
  | cons key rest ih =>
      simp only [find?, Option.bind_eq_some_iff] at found
      obtain ⟨child, hchild, hrest⟩ := found
      cases t with
      | obj entries =>
          rw [alter, Entries.update_eq_self hchild (ih hrest)]
          rfl
      | _ => cases hchild

theorem pointer?_of_key (h : segments key = [key]) : t.pointer? key = t.get? key := by
  rw [pointer?, h, find?]
  cases t.get? key <;> rfl

end OptionTree

/-! ## Resolved options -/

namespace Options

variable {a b c : Options} {keys : List String}

theorem eq_of_root (h : a.root = b.root) : a = b := by
  cases a
  cases b
  exact congrArg Options.mk h

theorem set_root (options : Options) (path : String) (value : OptionTree) :
    (options.set path value).root =
      options.root.alter (OptionTree.segments path) fun _ => value :=
  OptionTree.put_eq_alter _

theorem get?_of_key {options : Options} {key : String} (h : OptionTree.segments key = [key]) :
    options.get? key = options.root.get? key :=
  OptionTree.pointer?_of_key h

/-- A path of two keys is read in what is under the first; a missing object has no keys. -/
theorem get?_of_keys {options : Options} {path outer inner : String} {missing : OptionTree}
    (alone : OptionTree.segments outer = [outer])
    (parts : OptionTree.segments path = [outer, inner]) (empty : missing.get? inner = none) :
    options.get? path = ((options.get? outer).getD missing).get? inner := by
  rw [get?_of_key alone, Options.get?, OptionTree.pointer?, parts, OptionTree.find?]
  cases options.root.get? outer with
  | none => exact empty.symm
  | some t =>
      rw [Option.bind_some, Option.getD_some, OptionTree.find?]
      cases t.get? inner <;> rfl

/-- Options that differ below some keys of the root at most. -/
def SameBut (keys : List String) (a b : Options) : Prop :=
  ∀ key, key ∉ keys → a.root.get? key = b.root.get? key

theorem set_sameBut (options : Options) {path : String} (value : OptionTree)
    (inside : (OptionTree.segments path).head (OptionTree.segments_ne_nil path) ∈ keys) :
    SameBut keys (options.set path value) options := by
  intro key outside
  rw [set_root]
  cases parts : OptionTree.segments path with
  | nil => exact absurd parts (OptionTree.segments_ne_nil path)
  | cons first rest =>
      simp only [parts, List.head_cons] at inside
      exact OptionTree.get?_alter_of_ne fun same => outside (same ▸ inside)

theorem SameBut.trans (h : SameBut keys a b) (h' : SameBut keys b c) : SameBut keys a c :=
  fun key outside => (h key outside).trans (h' key outside)

theorem SameBut.mono {more : List String} (h : SameBut keys a b) (sub : keys ⊆ more) :
    SameBut more a b :=
  fun key outside => h key fun inside => outside (sub inside)

theorem SameBut.get? (h : SameBut keys a b) {path : String}
    (outside : (OptionTree.segments path).head (OptionTree.segments_ne_nil path) ∉ keys) :
    a.get? path = b.get? path := by
  rw [Options.get?, Options.get?, OptionTree.pointer?, OptionTree.pointer?]
  cases parts : OptionTree.segments path with
  | nil => exact absurd parts (OptionTree.segments_ne_nil path)
  | cons key rest =>
      simp only [parts, List.head_cons] at outside
      rw [OptionTree.find?, OptionTree.find?, h key outside]

end Options

end Charting
