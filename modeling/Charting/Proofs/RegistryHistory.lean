import Charting.Proofs.Failure
import Charting.Registry
import Mathlib.Data.List.Induction

/-!
# Registries as ordered maps

A registry remembers of its calls the last registration of each name that was not removed since, and
lists the names in the order in which they came to stay. Both are properties of the history of
calls, so that they can be told without the entries that the registry keeps.
-/

namespace Charting.Registry

variable {σ : Type}

/-! ## Calls -/

/-- A call that may change a registry. -/
inductive Request (σ : Type) where
  | register (name : String) (plot : PlotType σ)
  | unregister (name : String)

def Request.name : Request σ → String
  | .register name _ => name
  | .unregister name => name

/-- The registry after a call; one that refuses the call stays as it is. -/
def perform (registry : Registry σ) : Request σ → Registry σ
  | .register name plot =>
    match registry.register name plot with
    | .ok (_, registered) => registered
    | .error _ => registry
  | .unregister name => (registry.unregister name).2

def run (registry : Registry σ) (requests : List (Request σ)) : Registry σ :=
  requests.foldl perform registry

/-! ## What a history says -/

/-- The last call that named the name gave it the plot type. The empty name is never given one. -/
def Holds (history : List (Request σ)) (name : String) (plot : PlotType σ) : Prop :=
  name ≠ "" ∧ ∃ before after, history = before ++ .register name plot :: after ∧
    ∀ request ∈ after, request.name ≠ name

def Live (history : List (Request σ)) (name : String) : Prop := ∃ plot, Holds history name plot

/-- The call after the first `n` made the name live, and it has been live ever since. -/
structure LiveSince (history : List (Request σ)) (name : String) (n : Nat) : Prop where
  within : n < history.length
  fresh : ¬ Live (history.take n) name
  kept : ∀ m, n < m → m ≤ history.length → Live (history.take m) name

/-- The first name has been live for longer than the second. -/
def Earlier (history : List (Request σ)) (name other : String) : Prop :=
  ∃ n m, n < m ∧ LiveSince history name n ∧ LiveSince history other m

variable {history : List (Request σ)} {request : Request σ} {registry : Registry σ}
  {name other : String} {plot : PlotType σ} {n : Nat}

theorem holds_concat :
    Holds (history ++ [request]) name plot ↔
      name ≠ "" ∧ request = .register name plot ∨ request.name ≠ name ∧ Holds history name plot := by
  constructor
  · rintro ⟨named, before, after, split, later⟩
    rcases List.eq_nil_or_concat after with rfl | ⟨rest, last, rfl⟩
    · obtain ⟨-, same⟩ := List.append_inj' split rfl
      exact .inl ⟨named, List.singleton_inj.mp same⟩
    · rw [List.concat_eq_append] at later
      rw [List.concat_eq_append, ← List.cons_append, ← List.append_assoc] at split
      obtain ⟨rfl, same⟩ := List.append_inj' split rfl
      obtain rfl := List.singleton_inj.mp same
      refine .inr ⟨later _ (by simp), named, before, rest, rfl, fun r among => ?_⟩
      exact later r (List.mem_append_left _ among)
  · rintro (⟨named, rfl⟩ | ⟨aside, named, before, after, rfl, later⟩)
    · exact ⟨named, history, [], rfl, by simp⟩
    · refine ⟨named, before, after ++ [request], by simp, fun r among => ?_⟩
      rcases List.mem_append.mp among with inside | last
      · exact later r inside
      · rwa [List.mem_singleton.mp last]

theorem not_live_nil : ¬ Live ([] : List (Request σ)) name := by
  rintro ⟨plot, -, before, after, split, -⟩
  simp at split

theorem not_live_unnamed : ¬ Live history "" := by
  rintro ⟨plot, named, -⟩
  exact named rfl

theorem LiveSince.concat (h : LiveSince history name n) (live : Live (history ++ [request]) name) :
    LiveSince (history ++ [request]) name n where
  within := by
    rw [List.length_append]
    exact Nat.lt_add_right _ h.within
  fresh := by
    rw [List.take_append_of_le_length (Nat.le_of_lt h.within)]
    exact h.fresh
  kept m after within := by
    rcases Nat.lt_or_ge history.length m with whole | part
    · rwa [List.take_of_length_le (by simp; omega)]
    · rw [List.take_append_of_le_length part]
      exact h.kept m after part

theorem liveSince_length (fresh : ¬ Live history name) (live : Live (history ++ [request]) name) :
    LiveSince (history ++ [request]) name history.length where
  within := by simp
  fresh := by rwa [List.take_left]
  kept m after within := by rwa [List.take_of_length_le (by simp; omega)]

theorem Live.since (live : Live history name) : ∃ n, LiveSince history name n := by
  induction history using List.reverseRecOn with
  | nil => exact absurd live not_live_nil
  | append_singleton history request ih =>
      by_cases before : Live history name
      · obtain ⟨n, since⟩ := ih before
        exact ⟨n, since.concat live⟩
      · exact ⟨_, liveSince_length before live⟩

theorem Earlier.concat (h : Earlier history name other)
    (live : Live (history ++ [request]) name) (live' : Live (history ++ [request]) other) :
    Earlier (history ++ [request]) name other := by
  obtain ⟨n, m, before, since, since'⟩ := h
  exact ⟨n, m, before, since.concat live, since'.concat live'⟩

/-! ## What a registry remembers of it -/

/-- The registry finds what the history says, and lists the live names once and in order. -/
structure Recalls (registry : Registry σ) (history : List (Request σ)) : Prop where
  found : ∀ name plot, registry.get? name = some plot ↔ Holds history name plot
  listed : ∀ name, name ∈ registry.names ↔ Live history name
  once : registry.names.Nodup
  ordered : registry.names.Pairwise (Earlier history)

theorem listed_of_found
    (found : ∀ name plot, registry.get? name = some plot ↔ Holds history name plot)
    (name : String) : name ∈ registry.names ↔ Live history name := by
  rw [names, Entries.mem_keys_iff, Option.isSome_iff_exists]
  exact exists_congr fun plot => found name plot

theorem recalls_empty : Recalls ({} : Registry σ) [] where
  found _ plot := ⟨nofun, fun holds => absurd ⟨plot, holds⟩ not_live_nil⟩
  listed _ := ⟨nofun, fun live => absurd live not_live_nil⟩
  once := .nil
  ordered := .nil

theorem perform_register (named : name ≠ "") (plot : PlotType σ) :
    registry.register name plot =
        .ok (registry.get? name, registry.perform (.register name plot)) ∧
      registry.perform (.register name plot) = ⟨Entries.insert name plot registry.entries⟩ := by
  have registered : registry.register name plot =
      .ok (registry.get? name, ⟨Entries.insert name plot registry.entries⟩) := by
    rw [register, if_neg (by simpa using named)]
  rw [perform, registered]
  exact ⟨rfl, rfl⟩

theorem Recalls.found_perform (h : Recalls registry history) (request : Request σ)
    (name : String) (plot : PlotType σ) :
    (registry.perform request).get? name = some plot ↔
      Holds (history ++ [request]) name plot := by
  rw [holds_concat, ← h.found]
  cases request with
  | register new given =>
      by_cases named : new = ""
      · -- the call is refused, and under the empty name nothing was found before
        subst named
        change registry.get? name = some plot ↔ _
        constructor
        · intro found
          have holds := (h.found name plot).mp found
          exact .inr ⟨holds.1.symm, found⟩
        · rintro (⟨named, same⟩ | ⟨-, found⟩)
          · cases same
            exact absurd rfl named
          · exact found
      · rw [(perform_register named given).2, get?, Entries.get?_insert]
        by_cases same : new = name
        · subst same
          simp [named, Request.name]
        · simp [same, Request.name, get?]
  | unregister gone =>
      change Entries.get? (Entries.erase gone registry.entries) name = some plot ↔ _
      rw [Entries.get?_erase h.once]
      by_cases same : gone = name <;> simp [same, Request.name, get?]

theorem names_register (named : name ≠ "") (plot : PlotType σ) :
    (registry.perform (.register name plot)).names =
      if name ∈ registry.names then registry.names else registry.names ++ [name] := by
  rw [(perform_register named plot).2]
  exact Entries.keys_insert name plot registry.entries

theorem names_unregister (registry : Registry σ) (name : String) :
    (registry.perform (.unregister name)).names = registry.names.erase name :=
  Entries.keys_erase name registry.entries

/-- A call leaves names in their order, and at most puts a new one behind them. -/
theorem names_perform (registry : Registry σ) (request : Request σ) :
    ∃ kept, kept.Sublist registry.names ∧
      ((registry.perform request).names = kept ∨
        (registry.perform request).names = kept ++ [request.name] ∧
          request.name ∉ registry.names) := by
  cases request with
  | register new given =>
      refine ⟨registry.names, .refl _, ?_⟩
      by_cases named : new = ""
      · subst named
        exact .inl rfl
      · rw [names_register named]
        split
        · exact .inl rfl
        · rename_i fresh
          exact .inr ⟨rfl, fresh⟩
  | unregister gone =>
      refine ⟨registry.names.erase gone, List.erase_sublist, .inl ?_⟩
      exact names_unregister registry gone

theorem Recalls.perform (h : Recalls registry history) (request : Request σ) :
    Recalls (registry.perform request) (history ++ [request]) := by
  have found := h.found_perform request
  have listed := listed_of_found found
  obtain ⟨kept, sub, same⟩ := names_perform registry request
  have once : kept.Nodup := h.once.sublist sub
  have live : ∀ name ∈ kept, Live (history ++ [request]) name := by
    intro name among
    apply (listed name).mp
    rcases same with same | ⟨same, -⟩ <;> rw [same]
    · exact among
    · exact List.mem_append_left _ among
  have ordered : kept.Pairwise (Earlier (history ++ [request])) :=
    (h.ordered.sublist sub).imp_of_mem fun ha hb earlier => earlier.concat (live _ ha) (live _ hb)
  rcases same with same | ⟨same, fresh⟩
  · exact ⟨found, listed, same ▸ once, same ▸ ordered⟩
  · -- the new name becomes live with this call, after every name that is listed already
    have born : LiveSince (history ++ [request]) request.name history.length :=
      liveSince_length (fun before => fresh ((h.listed _).mpr before))
        ((listed _).mp (by simp [same]))
    refine ⟨found, listed, ?_, ?_⟩
    · rw [same]
      exact List.nodup_append.mpr ⟨once, by simp, fun a ha b hb => by
        rintro rfl
        exact fresh (List.mem_singleton.mp hb ▸ sub.subset ha)⟩
    · rw [same, List.pairwise_append]
      refine ⟨ordered, by simp, fun a ha b hb => ?_⟩
      obtain ⟨n, since⟩ := ((h.listed a).mp (sub.subset ha)).since
      rw [List.mem_singleton.mp hb]
      exact ⟨n, history.length, since.within, since.concat (live a ha), born⟩

theorem Recalls.run (h : Recalls registry history) (requests : List (Request σ)) :
    Recalls (registry.run requests) (history ++ requests) := by
  induction requests generalizing registry history with
  | nil =>
      rw [List.append_nil]
      exact h
  | cons request rest ih =>
      have performed := ih (h.perform request)
      rwa [List.append_assoc] at performed

/-! ## What calls answer -/

/-- How a registry with such a history answers the next call. -/
structure Answers (registry : Registry σ) (history : List (Request σ)) : Prop where
  replaces : ∀ name plot, name ≠ "" → ∃ replaced,
    registry.register name plot = .ok (replaced, registry.perform (.register name plot)) ∧
      ∀ previous, replaced = some previous ↔ Holds history name previous
  /-- A live name that is registered again keeps its place. -/
  keeps : ∀ name plot, Live history name →
    (registry.perform (.register name plot)).names = registry.names
  refuses : ∀ plot,
    registry.register "" plot =
        .error (.invalidOption "name" "plot type name must not be empty") ∧
      registry.perform (.register "" plot) = registry
  removes : ∀ name, ((registry.unregister name).1 = true ↔ Live history name) ∧
    (registry.perform (.unregister name)).names = registry.names.filter fun other => other != name
  unnamed : ¬ Live history "" ∧ registry.get? "" = none
  unknown : ∀ name description, ¬ Live history name →
    registry.create name description = .error (.unknownPlotType name)
  known : ∀ name description, Live history name → ∀ missing,
    registry.create name description ≠ .error (.unknownPlotType missing)

theorem create_known (plot : PlotType σ) (description : Description) (missing : String) :
    Layer.create plot description ≠ .error (.unknownPlotType missing) := by
  rw [Layer.create, Options.resolve]
  split
  · split <;> nofun
  · nofun

theorem Recalls.answers (h : Recalls registry history) : Answers registry history where
  replaces name plot named :=
    ⟨registry.get? name, (perform_register named plot).1, h.found name⟩
  keeps name plot live := by
    have named : name ≠ "" := by
      rintro rfl
      exact not_live_unnamed live
    rw [names_register named, if_pos ((h.listed name).mpr live)]
  refuses _ := ⟨rfl, rfl⟩
  removes name := by
    constructor
    · change (registry.get? name).isSome = true ↔ _
      rw [Option.isSome_iff_exists]
      exact exists_congr (h.found name)
    · rw [names_unregister]
      exact h.once.erase_eq_filter name
  unnamed := by
    refine ⟨not_live_unnamed, Option.eq_none_iff_forall_ne_some.mpr fun plot found => ?_⟩
    exact not_live_unnamed ⟨plot, (h.found "" plot).mp found⟩
  unknown name description dead := by
    have missing : registry.get? name = none :=
      Option.eq_none_iff_forall_ne_some.mpr fun plot found => dead ⟨plot, (h.found _ _).mp found⟩
    rw [create, missing]
  known name description live missing := by
    obtain ⟨plot, holds⟩ := live
    rw [create, (h.found name plot).mpr holds]
    intro failed
    exact create_known plot description missing (Outcome.map_eq_error.mp failed)

/-! ## Any history -/

/-- A registry as it is found, with the registrations that it stands for. -/
inductive Opened : Registry σ → List (Request σ) → Prop where
  | empty : Opened {} []
  | builtin (invoke : Invoke σ) : Opened (builtin invoke)
      [.register "column" (Plot.Column.plot invoke), .register "scatter" (Plot.Scatter.plot σ)]

/--
Whatever calls a registry has had, an empty one or one of the built-in plots at first, it finds and
lists what they say, and answers the next one accordingly.
-/
theorem Opened.remembers (opened : Opened registry history) (requests : List (Request σ)) :
    Recalls (registry.run requests) (history ++ requests) ∧
      Answers (registry.run requests) (history ++ requests) := by
  have first : Recalls registry history := by
    cases opened with
    | empty => exact recalls_empty
    | builtin invoke =>
        exact recalls_empty.run [.register "column" (Plot.Column.plot invoke),
          .register "scatter" (Plot.Scatter.plot _)]
  exact ⟨first.run requests, (first.run requests).answers⟩

/-- Columns go and come back behind the bars, and points are registered again in their place. -/
theorem remembers_columns :
    let opening : List (Request Unit) :=
      [.register "column" (Plot.Column.plot fun _ _ => pure .null),
        .register "scatter" (Plot.Scatter.plot Unit)]
    let requests : List (Request Unit) :=
      [.unregister "column", .register "bar" (Plot.Scatter.plot Unit),
        .register "scatter" (Plot.Column.plot fun _ _ => pure .null),
        .register "" (Plot.Scatter.plot Unit), .register "column" (Plot.Scatter.plot Unit)]
    let now := (builtin fun _ _ => pure .null).run requests
    Opened (builtin fun _ _ => pure .null) opening ∧ now.names = ["scatter", "bar", "column"] ∧
      Recalls now (opening ++ requests) ∧ Answers now (opening ++ requests) :=
  ⟨.builtin _, rfl, Opened.remembers (.builtin _) _⟩

end Charting.Registry
