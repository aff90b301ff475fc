import Charting.Layer.Basic

/-!
# Running work on a layer

Work on a layer leaves an outcome, the layer and the world, whether it fails or not. Each way of
putting work together has one equation here, so that an operation can be followed call by call.
-/

namespace Charting.LayerM

variable {σ α β : Type}

/-- What work on a layer leaves: its outcome, the layer and the world. -/
def exec (work : LayerM σ α) (layer : Layer) (world : σ) : (Except Failure α × Layer) × σ :=
  (work.run.run layer).run world

variable {l : Layer} {w : σ}

theorem exec_of_outcome {work : LayerM σ α} {r : Except Failure α}
    (h : (work.exec l w).1.1 = r) :
    work.exec l w = ((r, (work.exec l w).1.2), (work.exec l w).2) := by
  rw [← h]

theorem exec_pure (a : α) : (pure a : LayerM σ α).exec l w = ((.ok a, l), w) := rfl

theorem exec_throw (e : Failure) : (throw e : LayerM σ α).exec l w = ((.error e, l), w) := rfl

theorem exec_modify (f : Layer → Layer) :
    (modify f : LayerM σ Unit).exec l w = ((.ok (), f l), w) := rfl

theorem exec_bind (x : LayerM σ α) (f : α → LayerM σ β) :
    (x >>= f).exec l w =
      match x.exec l w with
      | ((.ok a, l₁), w₁) => (f a).exec l₁ w₁
      | ((.error e, l₁), w₁) => ((.error e, l₁), w₁) := by
  have unfolded : (x >>= f).exec l w =
      ((ExceptT.bindCont f (x.exec l w).1.1).run (x.exec l w).1.2).run (x.exec l w).2 := rfl
  rw [unfolded]
  rcases x.exec l w with ⟨⟨_ | _, _⟩, _⟩ <;> rfl

/-- The handler starts from what the failed work left. -/
theorem exec_tryCatch (x : LayerM σ α) (f : Failure → LayerM σ α) :
    (tryCatch x f).exec l w =
      match x.exec l w with
      | ((.ok a, l₁), w₁) => ((.ok a, l₁), w₁)
      | ((.error e, l₁), w₁) => (f e).exec l₁ w₁ := by
  cases h : x.exec l w with
  | mk out w₁ =>
      obtain ⟨r, l₁⟩ := out
      replace h : x l w = ((r, l₁), w₁) := h
      cases r with
      | error e =>
          simp [exec, tryCatch, tryCatchThe, MonadExceptOf.tryCatch, ExceptT.tryCatch, ExceptT.mk,
            ExceptT.run, bind, StateT.bind, StateT.run, h]
      | ok a =>
          simp [exec, tryCatch, tryCatchThe, MonadExceptOf.tryCatch, ExceptT.tryCatch, ExceptT.mk,
            ExceptT.run, bind, StateT.bind, StateT.run, h]
          rfl

/-! ## First steps -/

theorem exec_get_bind (f : Layer → LayerM σ β) : (get >>= f).exec l w = (f l).exec l w := by
  rw [exec_bind]; rfl

theorem exec_modify_bind (f : Layer → Layer) (g : Unit → LayerM σ β) :
    (modify f >>= g).exec l w = (g ()).exec (f l) w := by
  rw [exec_bind]; rfl

theorem exec_throw_bind (e : Failure) (f : α → LayerM σ β) :
    ((throw e : LayerM σ α) >>= f).exec l w = ((.error e, l), w) := by
  rw [exec_bind]; rfl

/-- A call leaves the layer alone; its failure is that of the work. -/
theorem exec_call_bind (x : Attempt σ α) (f : α → LayerM σ β) :
    (call x >>= f).exec l w =
      match x.run.run w with
      | (.ok a, w₁) => (f a).exec l w₁
      | (.error e, w₁) => ((.error e, l), w₁) := by
  have called : (call x).exec l w = (((x.run.run w).1, l), (x.run.run w).2) := rfl
  rw [exec_bind, called]
  rcases x.run.run w with ⟨_ | _, _⟩ <;> rfl

theorem run_ask (x : StateM σ α) :
    (liftM x : Attempt σ α).run.run w = (.ok (x.run w).1, (x.run w).2) := rfl

/-- The options keep what was written before a failure. -/
theorem exec_onOptions (work : OptionsM σ α) :
    (onOptions work).exec l w =
      let after := (work.run.run l.options).run w
      ((after.1.1, { l with options := after.1.2 }), after.2) := rfl

/-- Work that leaves nothing behind can be done as often as one likes. -/
theorem exec_mapM_of_idle {work : α → LayerM σ β} {answer : α → β}
    (idle : ∀ a w, (work a).exec l w = ((.ok (answer a), l), w)) (as : List α) (w : σ) :
    (as.mapM work).exec l w = ((.ok (as.map answer), l), w) := by
  induction as with
  | nil => rfl
  | cons a rest ih => simp only [List.mapM_cons, exec_bind, idle, ih, exec_pure, List.map_cons]

end Charting.LayerM
