import Charting.Plot.Column
import Charting.Proofs.Options.Agreement

/-!
# What the rules of the column plot write

The rule before drawing writes one number, those after drawing write three flags. Each of them
overwrites what it wrote before, in its place, so that nothing is left of earlier passes but the
last values.
-/

namespace Charting.Plot.Column

/-- The flags that the rules after drawing decide on. -/
structure Verdict where
  /-- The labels of the x axis do not fit their bands. -/
  crowded : Bool
  /-- The labels of the columns do not fit their columns. -/
  moved : Bool
deriving DecidableEq

def writeTicks (height : UInt32) (options : Options) : Options :=
  options.set "yAxis.tickCount" (.num (tickCount height).toFloat)

def writeVerdict (v : Verdict) (options : Options) : Options :=
  ((options.set "xAxis.label.autoRotate" (.bool v.crowded)).set
    "xAxis.label.autoHide" (.bool v.crowded)).set "label.adjustPosition" (.bool v.moved)

/-- What is decided about a scene and the rows drawn in it. -/
def judge (xField yField : String) (data : List Datum) (scene : Scene) : Verdict where
  crowded := bandWidth scene < widestText data xField
  moved := !labelsFit scene data yField

/-! ## As changes of the tree -/

/-- The two flags of the labels of an axis. -/
def turn (crowded : Bool) (label : OptionTree) : OptionTree :=
  (label.alter ["autoRotate"] fun _ => .bool crowded).alter ["autoHide"] fun _ => .bool crowded

def move (moved : Bool) (label : OptionTree) : OptionTree :=
  label.alter ["adjustPosition"] fun _ => .bool moved

theorem writeTicks_root (height : UInt32) (options : Options) :
    (writeTicks height options).root =
      options.root.alter ["yAxis", "tickCount"] fun _ => .num (tickCount height).toFloat :=
  Options.set_root options "yAxis.tickCount" _

theorem writeVerdict_root (v : Verdict) (options : Options) :
    (writeVerdict v options).root =
      (options.root.alter ["xAxis", "label"] (turn v.crowded)).alter ["label"] (move v.moved) := by
  have rotate : OptionTree.segments "xAxis.label.autoRotate" =
      ["xAxis", "label"] ++ ["autoRotate"] := rfl
  have hide : OptionTree.segments "xAxis.label.autoHide" = ["xAxis", "label"] ++ ["autoHide"] := rfl
  have adjust : OptionTree.segments "label.adjustPosition" = ["label"] ++ ["adjustPosition"] := rfl
  rw [writeVerdict, Options.set_root, Options.set_root, Options.set_root, rotate, hide, adjust]
  simp only [OptionTree.alter_append, OptionTree.alter_alter]
  rfl

/-! ## Overwriting -/

theorem turn_turn (a b : Bool) (t : OptionTree) : turn a (turn b t) = turn a t :=
  OptionTree.alter_pair (by decide)

theorem move_move (a b : Bool) (t : OptionTree) : move a (move b t) = move a t :=
  OptionTree.alter_alter

theorem writeTicks_writeTicks (height height' : UInt32) (options : Options) :
    writeTicks height (writeTicks height' options) = writeTicks height options := by
  apply Options.eq_of_root
  simp only [writeTicks_root, OptionTree.alter_alter]

theorem writeVerdict_writeVerdict (v v' : Verdict) (options : Options) :
    writeVerdict v (writeVerdict v' options) = writeVerdict v options := by
  apply Options.eq_of_root
  simp only [writeVerdict_root]
  rw [OptionTree.alter_pair (by decide)]
  simp only [turn_turn, move_move]

/-- New ticks replace the earlier ones below the verdict, whose place stays behind theirs. -/
theorem writeTicks_writeVerdict (height height' : UInt32) (v : Verdict) (options : Options) :
    writeTicks height (writeVerdict v (writeTicks height' options)) =
      writeVerdict v (writeTicks height options) := by
  apply Options.eq_of_root
  simp only [writeTicks_root, writeVerdict_root]
  have label : "yAxis" ≠ "label" := by decide
  have xAxis : "yAxis" ≠ "xAxis" := by decide
  rw [OptionTree.alter_comm label (by simp [OptionTree.get?_alter_cons]),
    OptionTree.alter_comm xAxis (by simp [OptionTree.get?_alter_cons]), OptionTree.alter_alter]

/-! ## Writing without a difference -/

theorem turn_of_agrees {crowded : Bool} {t : OptionTree}
    (h : t.agrees (turn crowded t) = true) : turn crowded t = t := by
  obtain ⟨⟨u, hu, rotated⟩, ⟨u', hu', hidden⟩⟩ := OptionTree.agrees_alter_pair (by decide) h
  obtain rfl := OptionTree.agrees_bool rotated
  obtain rfl := OptionTree.agrees_bool hidden
  rw [turn, OptionTree.alter_eq_self hu rfl, OptionTree.alter_eq_self hu' rfl]

theorem move_of_agrees {moved : Bool} {t : OptionTree}
    (h : t.agrees (move moved t) = true) : move moved t = t := by
  obtain ⟨u, hu, same⟩ := OptionTree.agrees_alter h
  obtain rfl := OptionTree.agrees_bool same
  exact OptionTree.alter_eq_self hu rfl

/-- A verdict that leaves the options in agreement with what they were was there already. -/
theorem writeVerdict_of_agrees {v : Verdict} {options : Options}
    (h : (options == writeVerdict v options) = true) : writeVerdict v options = options := by
  have agree : options.root.agrees (writeVerdict v options).root = true := h
  rw [writeVerdict_root] at agree
  obtain ⟨⟨u, hu, turned⟩, ⟨u', hu', moved⟩⟩ :=
    OptionTree.agrees_alter_pair (by decide) agree
  apply Options.eq_of_root
  rw [writeVerdict_root, OptionTree.alter_eq_self hu (turn_of_agrees turned),
    OptionTree.alter_eq_self hu' (move_of_agrees moved)]

/-! ## What stays -/

theorem writeTicks_sameBut (height : UInt32) (options : Options) :
    Options.SameBut ["yAxis"] (writeTicks height options) options :=
  Options.set_sameBut options _ (by decide)

theorem writeVerdict_sameBut (v : Verdict) (options : Options) :
    Options.SameBut ["xAxis", "label"] (writeVerdict v options) options :=
  (Options.set_sameBut _ _ (by decide)).trans
    ((Options.set_sameBut _ _ (by decide)).trans (Options.set_sameBut _ _ (by decide)))

end Charting.Plot.Column
