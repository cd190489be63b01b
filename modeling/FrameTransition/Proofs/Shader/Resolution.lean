import FrameTransition.Shader.UniformLayout

/-!
# What resolution finds

Resolution takes the globals of a stage one after the other, and each that has a role puts itself over
whatever filled the role before. `resolve_eq` says what a whole run comes to: the fault of the first global
with a role outside group 0, or else the last global of every role.

The three roles are read through one view of globals, `lastOf`. `overwrite` is the run itself as a function
of the globals, so what a longer list resolves to follows from its parts (`overwrite_append`).
-/

namespace FrameTransition.Shader

/-! ## Roles -/

namespace Role

/-- The binding of an image for the frame. -/
def texture? : Role → Option Nat
  | texture binding => some binding
  | _ => none

/-- The binding of a sampler for the frame. -/
def sampler? : Role → Option Nat
  | sampler binding => some binding
  | _ => none

/-- A block with parameters. -/
def params? : Role → Option ParamsBlock
  | params block => some block
  | _ => none

end Role

/-- What a global has of one role. -/
def Global.plays {α : Type} (view : Role → Option α) (var : Global) : Option α :=
  var.role?.bind fun entry => view entry.2

/-- What the last global of a role has of it. -/
def lastOf {α : Type} (view : Role → Option α) (globals : List Global) : Option α :=
  (globals.filterMap (·.plays view)).getLast?

section LastOf

variable {α : Type} (view : Role → Option α) (var : Global) (globals later : List Global)

theorem lastOf_append :
    lastOf view (globals ++ later) = (lastOf view later).or (lastOf view globals) := by
  unfold lastOf
  rw [List.filterMap_append, List.getLast?_append]

theorem lastOf_cons :
    lastOf view (var :: globals) = (lastOf view globals).or (var.plays view) := by
  have hsingle : lastOf view [var] = var.plays view := by
    cases hplays : var.plays view with
    | none => simp [lastOf, hplays]
    | some value => simp [lastOf, hplays]
  rw [← List.singleton_append, lastOf_append, hsingle]

theorem lastOf_eq_none_iff : lastOf view globals = none ↔ ∀ var ∈ globals, var.plays view = none := by
  unfold lastOf
  rw [List.getLast?_eq_none_iff, List.filterMap_eq_nil_iff]

end LastOf

/-- A global that is not bound has no role. -/
theorem Global.role?_of_unbound {var : Global} (h : var.binding = none) : var.role? = none := by
  unfold Global.role?
  rw [h]
  rfl

/-- The global variables of a stage that are bound. -/
def StageInterface.resources (stage : StageInterface) : List Global :=
  stage.globals.filter (·.binding.isSome)

/-- Nothing is lost of a view that has nothing of globals that are not bound. -/
theorem filterMap_resources {α : Type} {view : Global → Option α}
    (h : ∀ var : Global, var.binding = none → view var = none) (stage : StageInterface) :
    stage.resources.filterMap view = stage.globals.filterMap view := by
  have hview : (fun var : Global => if var.binding.isSome = true then view var else none) = view := by
    funext var
    cases hbinding : var.binding with
    | none => exact (h var hbinding).symm
    | some place => rfl
  rw [StageInterface.resources, List.filterMap_filter, hview]

theorem lastOf_resources {α : Type} (view : Role → Option α) (stage : StageInterface) :
    lastOf view stage.resources = lastOf view stage.globals := by
  have hplays : ∀ var : Global, var.binding = none → var.plays view = none := by
    intro var hbinding
    rw [Global.plays, Global.role?_of_unbound hbinding, Option.bind_none]
  rw [lastOf, filterMap_resources hplays, lastOf]

/-! ## A run over globals -/

namespace UniformLayout

/-- The layout with every role filled by the last global of a list that has it, if there is one. -/
def overwrite (layout : UniformLayout) (globals : List Global) : UniformLayout where
  texture := (lastOf Role.texture? globals).or layout.texture
  sampler := (lastOf Role.sampler? globals).or layout.sampler
  params := (lastOf Role.params? globals).or layout.params

theorem assign_eq (layout : UniformLayout) (role : Role) :
    layout.assign role =
      ⟨role.texture?.or layout.texture, role.sampler?.or layout.sampler, role.params?.or layout.params⟩ := by
  cases role <;> rfl

theorem overwrite_append (layout : UniformLayout) (globals later : List Global) :
    layout.overwrite (globals ++ later) = (layout.overwrite globals).overwrite later := by
  simp only [overwrite, lastOf_append, Option.or_assoc]

theorem overwrite_resources (layout : UniformLayout) (stage : StageInterface) :
    layout.overwrite stage.resources = layout.overwrite stage.globals := by
  simp only [overwrite, lastOf_resources]

theorem overwrite_cons_of_none (layout : UniformLayout) {var : Global} (h : var.role? = none)
    (globals : List Global) : layout.overwrite (var :: globals) = layout.overwrite globals := by
  simp only [overwrite, lastOf_cons, Global.plays, h, Option.bind_none, Option.or_none]

theorem overwrite_cons_of_some (layout : UniformLayout) {var : Global} {entry : Nat × Role}
    (h : var.role? = some entry) (globals : List Global) :
    layout.overwrite (var :: globals) = (layout.assign entry.2).overwrite globals := by
  rw [assign_eq]
  simp only [overwrite, lastOf_cons, Global.plays, h, Option.bind_some, Option.or_assoc]

/-- The fault of a global that has a role and is bound outside group 0. -/
def misplaced (entry : Nat × Role) : Fault :=
  ⟨.link, s!"{entry.2.subject} must live in bind group 0, found group {entry.1}"⟩

/-- The first role among globals that is played outside group 0. -/
def firstMisplaced? (globals : List Global) : Option (Nat × Role) :=
  (globals.filterMap (·.role?)).find? fun entry => entry.1 ≠ 0

theorem firstMisplaced?_eq_none_iff {globals : List Global} :
    firstMisplaced? globals = none ↔
      ∀ var ∈ globals, ∀ entry, var.role? = some entry → entry.1 = 0 := by
  simp only [firstMisplaced?, List.find?_eq_none, List.mem_filterMap, decide_eq_true_eq, Decidable.not_not,
    forall_exists_index, and_imp]
  exact ⟨fun h var hvar entry hentry => h entry var hvar hentry,
    fun h entry var hvar hentry => h var hvar entry hentry⟩

/-- What comes of globals, taken one after the other. -/
theorem foldlM_accept (layout : UniformLayout) (globals : List Global) :
    (globals.filterMap (·.role?)).foldlM accept layout =
      match firstMisplaced? globals with
      | some entry => .error (misplaced entry)
      | none => .ok (layout.overwrite globals) := by
  induction globals generalizing layout with
  | nil => rfl
  | cons var globals ih =>
    cases hrole : var.role? with
    | none =>
      have hskip : firstMisplaced? (var :: globals) = firstMisplaced? globals := by
        rw [firstMisplaced?, List.filterMap_cons_none hrole, firstMisplaced?]
      rw [List.filterMap_cons_none hrole, hskip, overwrite_cons_of_none layout hrole]
      exact ih layout
    | some entry =>
      rw [List.filterMap_cons_some hrole, List.foldlM_cons]
      by_cases hgroup : entry.1 = 0
      · have haccept : layout.accept entry = .ok (layout.assign entry.2) := if_pos hgroup
        have hskip : firstMisplaced? (var :: globals) = firstMisplaced? globals := by
          rw [firstMisplaced?, List.filterMap_cons_some hrole,
            List.find?_cons_of_neg (by simpa using hgroup), firstMisplaced?]
        rw [haccept, hskip, overwrite_cons_of_some layout hrole]
        exact ih _
      · have haccept : layout.accept entry = .error (misplaced entry) := if_neg hgroup
        have hfound : firstMisplaced? (var :: globals) = some entry := by
          rw [firstMisplaced?, List.filterMap_cons_some hrole,
            List.find?_cons_of_pos (by simpa using hgroup)]
        rw [haccept, hfound]
        rfl

/-- Resolution reports the first global with a role outside group 0, and without one it takes the last
global of every role. -/
theorem resolve_eq (stage : StageInterface) :
    resolve stage =
      match firstMisplaced? stage.globals with
      | some entry => .error (misplaced entry)
      | none => .ok (empty.overwrite stage.globals) :=
  foldlM_accept empty stage.globals

theorem resolve_eq_ok_iff {stage : StageInterface} {layout : UniformLayout} :
    resolve stage = .ok layout ↔
      firstMisplaced? stage.globals = none ∧ layout = empty.overwrite stage.globals := by
  rw [resolve_eq]
  cases firstMisplaced? stage.globals with
  | none =>
    simp only [Except.ok.injEq, true_and]
    exact eq_comm
  | some entry => simp only [reduceCtorEq, false_and]

end UniformLayout

end FrameTransition.Shader
