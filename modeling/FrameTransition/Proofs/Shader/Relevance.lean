import FrameTransition.Proofs.Shader.First
import FrameTransition.Proofs.Shader.Resolution

/-!
# Which globals resolution looks at

A global is relevant if it is bound and is the frame's image, its sampler or a block of parameters, each said
by name, type and memory alone. `Resolves` says in these words what resolution is to answer: the fault of the
first relevant global that is outside group 0, or else what the last global of each kind has to show.

That it is the answer (`resolves_iff`) rests on one reading of a role (`role?_eq_some_iff`), from which the kinds
and what they show follow. Two things are then plain: globals that are not relevant make no difference, and
neither does the order where no kind occurs twice.
-/

namespace FrameTransition.Shader

/-! ## Kinds of globals -/

/-- Where the first member of a name starts, if there is one of this name. -/
def Members.FirstOffset (members : Members) (name : String) : Option Nat → Prop
  | some offset => ∃ m, IsFirst (fun m => m.name = some name) members.toList m ∧ m.offset = offset
  | none => ∀ m ∈ members.toList, m.name ≠ some name

namespace Global

/-- A bound image that is called as the frame's. -/
def IsFrameImage (var : Global) : Prop :=
  var.binding.isSome ∧ var.name = some "_to_texture" ∧ ∃ shape, var.type = .image shape

/-- A bound sampler that is called as the frame's. -/
def IsFrameSampler (var : Global) : Prop :=
  var.binding.isSome ∧ var.name = some "_to_sampler" ∧ ∃ comparison, var.type = .sampler comparison

/-- A bound structure in uniform memory, of any name, that has a member for one of the parameters. -/
def IsParameterBlock (var : Global) : Prop :=
  var.binding.isSome ∧ var.space = .uniform ∧ ∃ title members span, var.type = .record title members span ∧
    ∃ m ∈ members.toList, m.name = some "progress" ∨ m.name = some "resolution"

/-- A global that resolution looks at. -/
def IsRelevant (var : Global) : Prop :=
  var.IsFrameImage ∨ var.IsFrameSampler ∨ var.IsParameterBlock

/-- The global is bound outside group 0. -/
def IsOutside (var : Global) : Prop :=
  ∃ place, var.binding = some place ∧ place.group ≠ 0

/-- What messages call a relevant global: a block goes without its name. -/
def IsCalled (var : Global) (subject : String) : Prop :=
  (var.IsFrameImage ∨ var.IsFrameSampler) ∧ var.name = some subject ∨
    var.IsParameterBlock ∧ subject = "transition parameters"

/-- The number a global is bound at in its group. -/
def HasBinding (var : Global) (binding : Nat) : Prop :=
  ∃ group, var.binding = some ⟨group, binding⟩

/-- A structure has the size of a block, and the parameters where the block has them. -/
def HasBlock (var : Global) (block : ParamsBlock) : Prop :=
  var.HasBinding block.binding ∧ ∃ title members, var.type = .record title members block.size ∧
    members.FirstOffset "progress" block.progressOffset ∧ members.FirstOffset "resolution" block.resolutionOffset

end Global

/-! ## Roles read backwards -/

theorem firstOffset_iff {members : Members} {name : String} {offset : Option Nat} :
    members.FirstOffset name offset ↔ members.offset? name = offset := by
  unfold Members.offset?
  cases hfind : members.toList.find? (fun m => decide (m.name = some name)) with
  | some m =>
    have hfirst := find?_eq_some_iff_isFirst.mp hfind
    cases offset with
    | some offset =>
      simp only [Members.FirstOffset, Option.map_some, Option.some.injEq]
      constructor
      · rintro ⟨other, hother, hoffset⟩
        rw [hfirst.unique hother, hoffset]
      · intro hoffset
        exact ⟨m, hfirst, hoffset⟩
    | none =>
      simp only [Members.FirstOffset, Option.map_some, reduceCtorEq, iff_false]
      intro hnone
      exact hnone m hfirst.mem hfirst.holds
  | none =>
    have hnone : ∀ m ∈ members.toList, m.name ≠ some name := by simpa using hfind
    cases offset with
    | some offset =>
      simp only [Members.FirstOffset, Option.map_none, reduceCtorEq, iff_false]
      rintro ⟨m, hfirst, -⟩
      exact hnone m hfirst.mem hfirst.holds
    | none => simpa [Members.FirstOffset] using hnone

theorem isSome_offset?_iff {members : Members} {name : String} :
    (members.offset? name).isSome ↔ ∃ m ∈ members.toList, m.name = some name := by
  simp [Members.offset?]

/-- What a bound global is to the renderer. -/
inductive Global.Stands (var : Global) (binding : Nat) : Role → Prop
  | texture {shape : ImageShape} : var.name = some "_to_texture" → var.type = .image shape →
      var.Stands binding (.texture binding)
  | sampler {comparison : Bool} : var.name = some "_to_sampler" → var.type = .sampler comparison →
      var.Stands binding (.sampler binding)
  | params {title : String} {members : Members} {block : ParamsBlock} : var.space = .uniform →
      var.type = .record title members block.size →
      (∃ m ∈ members.toList, m.name = some "progress" ∨ m.name = some "resolution") →
      block.binding = binding → members.FirstOffset "progress" block.progressOffset →
      members.FirstOffset "resolution" block.resolutionOffset → var.Stands binding (.params block)

theorem Global.role?_eq_some_iff {var : Global} {entry : Nat × Role} :
    var.role? = some entry ↔ ∃ place, var.binding = some place ∧ entry.1 = place.group ∧
      var.Stands place.binding entry.2 := by
  obtain ⟨name, space, binding, type⟩ := var
  obtain ⟨group, role⟩ := entry
  cases binding with
  | none => simp [Global.role?]
  | some place =>
    cases type with
    | image shape =>
      simp only [Global.role?, Option.bind_some, Option.ite_none_right_eq_some, Option.some.injEq, Prod.mk.injEq]
      constructor
      · rintro ⟨hname, rfl, rfl⟩
        exact ⟨place, rfl, rfl, .texture hname rfl⟩
      · rintro ⟨_, rfl, rfl, hstands⟩
        cases hstands with
        | texture hname _ => exact ⟨hname, rfl, rfl⟩
        | sampler _ htype => cases htype
        | params _ htype => cases htype
    | sampler comparison =>
      simp only [Global.role?, Option.bind_some, Option.ite_none_right_eq_some, Option.some.injEq, Prod.mk.injEq]
      constructor
      · rintro ⟨hname, rfl, rfl⟩
        exact ⟨place, rfl, rfl, .sampler hname rfl⟩
      · rintro ⟨_, rfl, rfl, hstands⟩
        cases hstands with
        | texture _ htype => cases htype
        | sampler hname _ => exact ⟨hname, rfl, rfl⟩
        | params _ htype => cases htype
    | record title members span =>
      simp only [Global.role?, Option.bind_some, Option.ite_none_right_eq_some, Option.some.injEq, Prod.mk.injEq,
        isSome_offset?_iff]
      constructor
      · rintro ⟨⟨hspace, hmember⟩, rfl, rfl⟩
        have hsome : ∃ m ∈ members.toList, m.name = some "progress" ∨ m.name = some "resolution" := by
          rcases hmember with ⟨m, hm, hname⟩ | ⟨m, hm, hname⟩
          · exact ⟨m, hm, .inl hname⟩
          · exact ⟨m, hm, .inr hname⟩
        exact ⟨place, rfl, rfl, .params hspace rfl hsome rfl (firstOffset_iff.mpr rfl) (firstOffset_iff.mpr rfl)⟩
      · rintro ⟨_, rfl, rfl, hstands⟩
        cases hstands with
        | texture _ htype => cases htype
        | sampler _ htype => cases htype
        | @params _ _ block hspace htype hsome hbinding hprogress hresolution =>
          cases htype
          obtain ⟨m, hm, hname⟩ := hsome
          refine ⟨⟨hspace, hname.imp (fun hname => ⟨m, hm, hname⟩) (fun hname => ⟨m, hm, hname⟩)⟩, rfl, ?_⟩
          rw [← hbinding]
          show Role.params ⟨_, _, members.offset? "progress", members.offset? "resolution"⟩ = _
          rw [firstOffset_iff.mp hprogress, firstOffset_iff.mp hresolution]
    | _ =>
      simp only [Global.role?, Option.bind_some, reduceCtorEq, false_iff]
      rintro ⟨_, -, -, hstands⟩
      rcases hstands with ⟨-, htype⟩ | ⟨-, htype⟩ | ⟨-, htype⟩ <;> cases htype

namespace Global

variable {var : Global} {place : ResourceBinding}

/-! ## Kinds and roles -/

theorem exists_place (h : var.IsRelevant) : ∃ place, var.binding = some place := by
  rcases h with ⟨hbound, -⟩ | ⟨hbound, -⟩ | ⟨hbound, -⟩ <;> exact Option.isSome_iff_exists.mp hbound

theorem hasBinding_iff (hplace : var.binding = some place) {binding : Nat} :
    var.HasBinding binding ↔ binding = place.binding := by
  obtain ⟨group, number⟩ := place
  simp [HasBinding, hplace, eq_comm]

theorem stands_texture_iff (hplace : var.binding = some place) {binding : Nat} :
    var.Stands place.binding (.texture binding) ↔ var.IsFrameImage ∧ var.HasBinding binding := by
  rw [hasBinding_iff hplace]
  constructor
  · intro h
    cases h with
    | texture hname htype => exact ⟨⟨by simp [hplace], hname, _, htype⟩, rfl⟩
  · rintro ⟨⟨-, hname, shape, htype⟩, rfl⟩
    exact .texture hname htype

theorem stands_sampler_iff (hplace : var.binding = some place) {binding : Nat} :
    var.Stands place.binding (.sampler binding) ↔ var.IsFrameSampler ∧ var.HasBinding binding := by
  rw [hasBinding_iff hplace]
  constructor
  · intro h
    cases h with
    | sampler hname htype => exact ⟨⟨by simp [hplace], hname, _, htype⟩, rfl⟩
  · rintro ⟨⟨-, hname, comparison, htype⟩, rfl⟩
    exact .sampler hname htype

theorem stands_params_iff (hplace : var.binding = some place) {block : ParamsBlock} :
    var.Stands place.binding (.params block) ↔ var.IsParameterBlock ∧ var.HasBlock block := by
  unfold HasBlock
  rw [hasBinding_iff hplace]
  constructor
  · intro h
    cases h with
    | params hspace htype hsome hbinding hprogress hresolution =>
      exact ⟨⟨by simp [hplace], hspace, _, _, _, htype, hsome⟩, hbinding, _, _, htype, hprogress, hresolution⟩
  · rintro ⟨⟨-, hspace, title, members, span, htype, hsome⟩, hbinding, _, _, hblock, hprogress, hresolution⟩
    obtain ⟨rfl, rfl, rfl⟩ := Ty.record.inj (htype.symm.trans hblock)
    exact .params hspace htype hsome hbinding hprogress hresolution

/-- Of a kind that stands for a role, a view of this role shows what the global has. -/
theorem plays_iff {α : Type} {view : Role → Option α} (role : α → Role) {kind : Global → Prop}
    {has : Global → α → Prop} (hview : ∀ other value, view other = some value ↔ other = role value)
    (hrelevant : ∀ var, kind var → var.IsRelevant)
    (hstands : ∀ (var : Global) place, var.binding = some place → ∀ value,
      var.Stands place.binding (role value) ↔ kind var ∧ has var value) (var : Global) (value : α) :
    var.plays view = some value ↔ kind var ∧ has var value := by
  unfold plays
  rw [Option.bind_eq_some_iff]
  constructor
  · rintro ⟨⟨group, other⟩, hrole, hvalue⟩
    obtain ⟨place, hplace, -, h⟩ := role?_eq_some_iff.mp hrole
    obtain rfl := (hview other value).mp hvalue
    exact (hstands var place hplace value).mp h
  · intro h
    obtain ⟨place, hplace⟩ := exists_place (hrelevant var h.1)
    have hrole := (hstands var place hplace value).mpr h
    exact ⟨(place.group, role value), role?_eq_some_iff.mpr ⟨place, hplace, rfl, hrole⟩, (hview _ _).mpr rfl⟩

theorem plays_texture?_iff (var : Global) (binding : Nat) :
    var.plays Role.texture? = some binding ↔ var.IsFrameImage ∧ var.HasBinding binding := by
  refine plays_iff Role.texture ?_ (fun _ h => .inl h) ?_ var binding
  · intro other value
    cases other <;> simp [Role.texture?]
  · intro var place hplace value
    exact stands_texture_iff hplace

theorem plays_sampler?_iff (var : Global) (binding : Nat) :
    var.plays Role.sampler? = some binding ↔ var.IsFrameSampler ∧ var.HasBinding binding := by
  refine plays_iff Role.sampler ?_ (fun _ h => .inr (.inl h)) ?_ var binding
  · intro other value
    cases other <;> simp [Role.sampler?]
  · intro var place hplace value
    exact stands_sampler_iff hplace

theorem plays_params?_iff (var : Global) (block : ParamsBlock) :
    var.plays Role.params? = some block ↔ var.IsParameterBlock ∧ var.HasBlock block := by
  refine plays_iff Role.params ?_ (fun _ h => .inr (.inr h)) ?_ var block
  · intro other value
    cases other <;> simp [Role.params?]
  · intro var place hplace value
    exact stands_params_iff hplace

theorem exists_binding (h : var.IsRelevant) : ∃ binding, var.HasBinding binding := by
  obtain ⟨place, hplace⟩ := exists_place h
  exact ⟨place.binding, place.group, hplace⟩

theorem exists_block (h : var.IsParameterBlock) : ∃ block, var.HasBlock block := by
  obtain ⟨binding, hbinding⟩ := exists_binding (.inr (.inr h))
  obtain ⟨-, -, title, members, span, htype, -⟩ := h
  exact ⟨⟨binding, span, members.offset? "progress", members.offset? "resolution"⟩, hbinding, title, members, htype,
    firstOffset_iff.mpr rfl, firstOffset_iff.mpr rfl⟩

/-- A global has a role just if it is relevant. -/
theorem isSome_role?_iff : var.role?.isSome ↔ var.IsRelevant := by
  constructor
  · intro h
    obtain ⟨⟨group, role⟩, hrole⟩ := Option.isSome_iff_exists.mp h
    obtain ⟨place, hplace, -, hstands⟩ := role?_eq_some_iff.mp hrole
    cases role with
    | texture binding => exact .inl ((stands_texture_iff hplace).mp hstands).1
    | sampler binding => exact .inr (.inl ((stands_sampler_iff hplace).mp hstands).1)
    | params block => exact .inr (.inr ((stands_params_iff hplace).mp hstands).1)
  · intro h
    have hsome : ∃ α, ∃ view : Role → Option α, (var.plays view).isSome := by
      obtain ⟨binding, hbinding⟩ := exists_binding h
      rcases h with h | h | h
      · exact ⟨Nat, Role.texture?, by simp [(plays_texture?_iff var binding).mpr ⟨h, hbinding⟩]⟩
      · exact ⟨Nat, Role.sampler?, by simp [(plays_sampler?_iff var binding).mpr ⟨h, hbinding⟩]⟩
      · obtain ⟨block, hblock⟩ := exists_block h
        exact ⟨ParamsBlock, Role.params?, by simp [(plays_params?_iff var block).mpr ⟨h, hblock⟩]⟩
    obtain ⟨α, view, hview⟩ := hsome
    unfold plays at hview
    cases hrole : var.role? with
    | none => simp [hrole] at hview
    | some entry => rfl

instance : DecidablePred Global.IsRelevant := fun _ => decidable_of_iff _ isSome_role?_iff

/-- A role is played outside group 0 just if the global is bound there. -/
theorem group_ne_zero_iff {entry : Nat × Role} (h : var.role? = some entry) : entry.1 ≠ 0 ↔ var.IsOutside := by
  obtain ⟨place, hplace, hgroup, -⟩ := role?_eq_some_iff.mp h
  simp [IsOutside, hplace, hgroup]

/-- The name in messages is the one that a relevant global is called by. -/
theorem isCalled_iff {entry : Nat × Role} (h : var.role? = some entry) {subject : String} :
    var.IsCalled subject ↔ entry.2.subject = subject := by
  obtain ⟨place, hplace, -, hstands⟩ := role?_eq_some_iff.mp h
  obtain ⟨group, role⟩ := entry
  cases role with
  | texture binding =>
    have himage := ((stands_texture_iff hplace).mp hstands).1
    have hblock : ¬ var.IsParameterBlock := by
      rintro ⟨-, -, title, members, span, htype, -⟩
      obtain ⟨-, -, shape, hshape⟩ := himage
      cases htype.symm.trans hshape
    simp [IsCalled, himage, hblock, himage.2.1, Role.subject, textureName]
  | sampler binding =>
    have hsampler := ((stands_sampler_iff hplace).mp hstands).1
    have hblock : ¬ var.IsParameterBlock := by
      rintro ⟨-, -, title, members, span, htype, -⟩
      obtain ⟨-, -, comparison, hcomparison⟩ := hsampler
      cases htype.symm.trans hcomparison
    simp [IsCalled, hsampler, hblock, hsampler.2.1, Role.subject, samplerName]
  | params block =>
    have hblock := ((stands_params_iff hplace).mp hstands).1
    have hnone : ¬ (var.IsFrameImage ∨ var.IsFrameSampler) := by
      obtain ⟨-, -, title, members, span, htype, -⟩ := hblock
      rintro (⟨-, -, shape, hshape⟩ | ⟨-, -, comparison, hcomparison⟩)
      · cases htype.symm.trans hshape
      · cases htype.symm.trans hcomparison
    simp [IsCalled, hnone, hblock, Role.subject, eq_comm]

end Global

/-! ## The last of a kind -/

/-- What the last element of a kind has, if there is one of this kind. -/
def FromLast {α β : Type} (kind : α → Prop) (has : α → β → Prop) (xs : List α) : Option β → Prop
  | some value => ∃ x, IsLast kind xs x ∧ has x value
  | none => ∀ x ∈ xs, ¬ kind x

theorem lastOf_eq_iff {α : Type} {view : Role → Option α} {kind : Global → Prop} {has : Global → α → Prop}
    (hview : ∀ (var : Global) value, var.plays view = some value ↔ kind var ∧ has var value)
    (htotal : ∀ var, kind var → ∃ value, has var value) {globals : List Global} {slot : Option α} :
    lastOf view globals = slot ↔ FromLast kind has globals slot := by
  have hkind : ∀ var : Global, (var.plays view).isSome ↔ kind var := by
    intro var
    simp only [Option.isSome_iff_exists, hview]
    constructor
    · rintro ⟨value, h, -⟩
      exact h
    · intro h
      obtain ⟨value, hvalue⟩ := htotal var h
      exact ⟨value, h, hvalue⟩
  cases slot with
  | none =>
    rw [lastOf_eq_none_iff]
    simp only [FromLast, ← hkind, Option.not_isSome_iff_eq_none]
  | some value =>
    unfold lastOf FromLast
    rw [getLast?_filterMap_eq_some_iff]
    simp only [hkind, hview]
    constructor
    · rintro ⟨var, hlast, -, hvalue⟩
      exact ⟨var, hlast, hvalue⟩
    · rintro ⟨var, hlast, hvalue⟩
      obtain ⟨before, after, hsplit, hvar, hafter⟩ := hlast
      exact ⟨var, ⟨before, after, hsplit, hvar, hafter⟩, hvar, hvalue⟩

/-! ## The answer -/

/-- What resolution is to answer for globals. -/
inductive Resolves (globals : List Global) : Except Fault UniformLayout → Prop
  | misplaced {var : Global} {place : ResourceBinding} {subject : String} :
      IsFirst (fun var => var.IsRelevant ∧ var.IsOutside) globals var → var.binding = some place →
      var.IsCalled subject →
        Resolves globals (.error ⟨.link, s!"{subject} must live in bind group 0, found group {place.group}"⟩)
  | resolved {layout : UniformLayout} : (∀ var ∈ globals, var.IsRelevant → ¬ var.IsOutside) →
      FromLast Global.IsFrameImage Global.HasBinding globals layout.texture →
      FromLast Global.IsFrameSampler Global.HasBinding globals layout.sampler →
      FromLast Global.IsParameterBlock Global.HasBlock globals layout.params → Resolves globals (.ok layout)

namespace UniformLayout

theorem firstMisplaced?_eq_some_iff {globals : List Global} {entry : Nat × Role} :
    firstMisplaced? globals = some entry ↔
      ∃ var, IsFirst (fun var => var.IsRelevant ∧ var.IsOutside) globals var ∧ var.role? = some entry := by
  have houtside : (fun var : Global => ∃ shown, var.role? = some shown ∧ decide (shown.1 ≠ 0) = true) =
      fun var => var.IsRelevant ∧ var.IsOutside := by
    funext var
    simp only [decide_eq_true_eq, eq_iff_iff, ← Global.isSome_role?_iff, Option.isSome_iff_exists]
    constructor
    · rintro ⟨shown, hrole, hgroup⟩
      exact ⟨⟨shown, hrole⟩, (Global.group_ne_zero_iff hrole).mp hgroup⟩
    · rintro ⟨⟨shown, hrole⟩, houtside⟩
      exact ⟨shown, hrole, (Global.group_ne_zero_iff hrole).mpr houtside⟩
  unfold firstMisplaced?
  rw [find?_filterMap_eq_some_iff, houtside]

theorem firstMisplaced?_eq_none_iff_isOutside {globals : List Global} :
    firstMisplaced? globals = none ↔ ∀ var ∈ globals, var.IsRelevant → ¬ var.IsOutside := by
  rw [firstMisplaced?_eq_none_iff]
  simp only [← Global.isSome_role?_iff, Option.isSome_iff_exists]
  constructor
  · rintro h var hvar ⟨entry, hrole⟩ houtside
    exact (Global.group_ne_zero_iff hrole).mpr houtside (h var hvar entry hrole)
  · intro h var hvar entry hrole
    by_contra hgroup
    exact h var hvar ⟨entry, hrole⟩ ((Global.group_ne_zero_iff hrole).mp hgroup)

/-- The slots of a layout are filled by the last global of each kind just if it is what resolution makes. -/
theorem overwrite_eq_iff {globals : List Global} {layout : UniformLayout} :
    empty.overwrite globals = layout ↔
      FromLast Global.IsFrameImage Global.HasBinding globals layout.texture ∧
        FromLast Global.IsFrameSampler Global.HasBinding globals layout.sampler ∧
          FromLast Global.IsParameterBlock Global.HasBlock globals layout.params := by
  obtain ⟨texture, sampler, params⟩ := layout
  simp only [overwrite, empty, Option.or_none, UniformLayout.mk.injEq]
  rw [lastOf_eq_iff Global.plays_texture?_iff fun _ h => Global.exists_binding (.inl h),
    lastOf_eq_iff Global.plays_sampler?_iff fun _ h => Global.exists_binding (.inr (.inl h)),
    lastOf_eq_iff Global.plays_params?_iff fun _ h => Global.exists_block h]

theorem resolves_iff {stage : StageInterface} {answer : Except Fault UniformLayout} :
    Resolves stage.globals answer ↔ resolve stage = answer := by
  rw [resolve_eq]
  cases hfirst : firstMisplaced? stage.globals with
  | some entry =>
    obtain ⟨var, hvar, hrole⟩ := firstMisplaced?_eq_some_iff.mp hfirst
    obtain ⟨place, hplace, hgroup, -⟩ := Global.role?_eq_some_iff.mp hrole
    constructor
    · intro h
      cases h with
      | misplaced hother hbinding hcalled =>
        obtain rfl := hvar.unique hother
        obtain rfl := Option.some.inj (hplace.symm.trans hbinding)
        show Except.error (misplaced entry) = _
        rw [misplaced, (Global.isCalled_iff hrole).mp hcalled, hgroup]
      | resolved hinside _ _ _ => exact absurd hvar.holds.2 (hinside var hvar.mem hvar.holds.1)
    · rintro rfl
      show Resolves _ (.error (misplaced entry))
      rw [misplaced, hgroup]
      exact .misplaced hvar hplace ((Global.isCalled_iff hrole).mpr rfl)
  | none =>
    have hinside := firstMisplaced?_eq_none_iff_isOutside.mp hfirst
    constructor
    · intro h
      cases h with
      | misplaced hvar _ _ => exact absurd hvar.holds.2 (hinside _ hvar.mem hvar.holds.1)
      | resolved _ htexture hsampler hparams =>
        exact congrArg Except.ok (overwrite_eq_iff.mpr ⟨htexture, hsampler, hparams⟩)
    · rintro rfl
      obtain ⟨htexture, hsampler, hparams⟩ := overwrite_eq_iff.mp (rfl : empty.overwrite stage.globals = _)
      exact .resolved hinside htexture hsampler hparams

theorem exists_fault_iff {stage : StageInterface} :
    (∃ fault, resolve stage = .error fault) ↔ ∃ var ∈ stage.globals, var.IsRelevant ∧ var.IsOutside := by
  rw [resolve_eq]
  cases hfirst : firstMisplaced? stage.globals with
  | some entry =>
    obtain ⟨var, hvar, -⟩ := firstMisplaced?_eq_some_iff.mp hfirst
    exact iff_of_true ⟨misplaced entry, rfl⟩ ⟨var, hvar.mem, hvar.holds⟩
  | none =>
    have hinside := firstMisplaced?_eq_none_iff_isOutside.mp hfirst
    refine iff_of_false ?_ ?_
    · rintro ⟨fault, h⟩
      cases h
    · rintro ⟨var, hvar, hrelevant, houtside⟩
      exact hinside var hvar hrelevant houtside

/-! ## What makes no difference -/

/-- Globals that are not relevant are passed over. -/
theorem filterMap_role?_filter (globals : List Global) :
    (globals.filter (·.IsRelevant)).filterMap (·.role?) = globals.filterMap (·.role?) := by
  rw [List.filterMap_filter]
  congr 1
  funext var
  cases hrole : var.role? with
  | none => simp
  | some entry =>
    have hrelevant : var.IsRelevant := Global.isSome_role?_iff.mp (by simp [hrole])
    simp [hrelevant]

theorem resolve_of_filter_eq {stage other : StageInterface}
    (h : other.globals.filter (·.IsRelevant) = stage.globals.filter (·.IsRelevant)) :
    resolve other = resolve stage := by
  unfold resolve
  rw [← filterMap_role?_filter other.globals, h, filterMap_role?_filter]

/-- No two of the globals are of a kind. -/
def AtMostOne (kind : Global → Prop) (globals : List Global) : Prop :=
  globals.Pairwise fun first second => ¬ (kind first ∧ kind second)

/-- Of a kind that occurs once, the last global is the same in any order. -/
theorem lastOf_of_perm {α : Type} {view : Role → Option α} {kind : Global → Prop} {has : Global → α → Prop}
    (hview : ∀ (var : Global) value, var.plays view = some value ↔ kind var ∧ has var value)
    {globals other : List Global} (hperm : other.Perm globals) (honce : AtMostOne kind globals) :
    lastOf view other = lastOf view globals := by
  have hpairwise : (globals.filterMap (·.plays view)).Pairwise fun _ _ => False := by
    apply List.Pairwise.filterMap _ _ honce
    intro first second hnot value hvalue value' hvalue'
    exact hnot ⟨((hview first value).mp hvalue).1, ((hview second value').mp hvalue').1⟩
  have hshown := hperm.filterMap (·.plays view)
  unfold lastOf
  cases hplayed : globals.filterMap (·.plays view) with
  | nil =>
    rw [hplayed] at hshown
    rw [hshown.eq_nil]
  | cons value values =>
    rw [hplayed] at hpairwise hshown
    cases values with
    | nil => rw [List.perm_singleton.mp hshown]
    | cons second values => exact absurd (List.mem_cons_self) (List.rel_of_pairwise_cons hpairwise)

/-- Where no kind occurs twice, the order of the globals changes no layout and no refusal. -/
theorem resolve_of_perm {stage other : StageInterface} (hperm : other.globals.Perm stage.globals)
    (himage : AtMostOne Global.IsFrameImage stage.globals)
    (hsampler : AtMostOne Global.IsFrameSampler stage.globals)
    (hblock : AtMostOne Global.IsParameterBlock stage.globals) :
    (∃ layout, resolve other = .ok layout ∧ resolve stage = .ok layout) ∨
      (∃ fault, resolve other = .error fault) ∧ ∃ fault, resolve stage = .error fault := by
  have hlayout : empty.overwrite other.globals = empty.overwrite stage.globals := by
    unfold overwrite
    rw [lastOf_of_perm Global.plays_texture?_iff hperm himage,
      lastOf_of_perm Global.plays_sampler?_iff hperm hsampler,
      lastOf_of_perm Global.plays_params?_iff hperm hblock]
  by_cases houtside : ∃ var ∈ stage.globals, var.IsRelevant ∧ var.IsOutside
  · have hother : ∃ var ∈ other.globals, var.IsRelevant ∧ var.IsOutside := by
      obtain ⟨var, hvar, h⟩ := houtside
      exact ⟨var, hperm.mem_iff.mpr hvar, h⟩
    exact .inr ⟨exists_fault_iff.mpr hother, exists_fault_iff.mpr houtside⟩
  · have hinside : ∀ var ∈ stage.globals, var.IsRelevant → ¬ var.IsOutside := by
      intro var hvar hrelevant h
      exact houtside ⟨var, hvar, hrelevant, h⟩
    have hother : ∀ var ∈ other.globals, var.IsRelevant → ¬ var.IsOutside := by
      intro var hvar
      exact hinside var (hperm.mem_iff.mp hvar)
    refine .inl ⟨empty.overwrite stage.globals, ?_, ?_⟩
    · exact resolve_eq_ok_iff.mpr ⟨firstMisplaced?_eq_none_iff_isOutside.mpr hother, hlayout.symm⟩
    · exact resolve_eq_ok_iff.mpr ⟨firstMisplaced?_eq_none_iff_isOutside.mpr hinside, rfl⟩

/-- What resolution comes to for a stage. -/
structure ResolveContract (stage : StageInterface) : Prop where
  /-- Of all answers one is right, and it is given. -/
  answer : ∀ answer, Resolves stage.globals answer ↔ resolve stage = answer
  /-- It fails just if a relevant global is outside group 0. -/
  fails : (∃ fault, resolve stage = .error fault) ↔ ∃ var ∈ stage.globals, var.IsRelevant ∧ var.IsOutside
  /-- Other globals may be put in or taken out anywhere. -/
  irrelevant : ∀ other : StageInterface,
    other.globals.filter (·.IsRelevant) = stage.globals.filter (·.IsRelevant) → resolve other = resolve stage
  /-- Where no kind occurs twice, the globals may be in any order. -/
  permuted : ∀ other : StageInterface, other.globals.Perm stage.globals →
    AtMostOne Global.IsFrameImage stage.globals → AtMostOne Global.IsFrameSampler stage.globals →
    AtMostOne Global.IsParameterBlock stage.globals →
      (∃ layout, resolve other = .ok layout ∧ resolve stage = .ok layout) ∨
        (∃ fault, resolve other = .error fault) ∧ ∃ fault, resolve stage = .error fault

/-- Resolution answers for every stage as it is to answer. -/
theorem resolve_contract (stage : StageInterface) : ResolveContract stage where
  answer := fun _ => resolves_iff
  fails := exists_fault_iff
  irrelevant := fun _ h => resolve_of_filter_eq h
  permuted := fun _ hperm himage hsampler hblock => resolve_of_perm hperm himage hsampler hblock

end UniformLayout

end FrameTransition.Shader
