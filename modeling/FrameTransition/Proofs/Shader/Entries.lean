import FrameTransition.Proofs.Shader.Relevance

/-!
# Who owns an entry

An entry of a bind group layout says that at some number there is an image, a sampler or a buffer of some size.
A pipeline is refused if two entries have one number, or if the stage has something else at that number. Where
no two globals of a stage are bound at one place, neither happens: each entry has an owner, the only global at
its number in group 0, and the owner is the resource that the entry says (`entries_of_resolve`).

A slot may have been filled several times over. It is the global that filled it last that owns the entry, and of
this global the name, the type and the memory are known (`exists_owner`). Two entries at one number would have
one owner, and a global is a resource of one kind only.
-/

namespace FrameTransition.Shader

/-! ## The only one of a kind -/

section Only

variable {α : Type} {p : α → Prop} {xs : List α} {x y : α}

/-- The element has the property, and none has it in front of it or behind it. -/
def IsOnly (p : α → Prop) (xs : List α) (x : α) : Prop :=
  ∃ before after, xs = before ++ x :: after ∧ p x ∧ (∀ y ∈ before, ¬ p y) ∧ ∀ y ∈ after, ¬ p y

theorem IsOnly.eq_of_mem (h : IsOnly p xs x) (hmem : y ∈ xs) (hy : p y) : y = x := by
  obtain ⟨before, after, rfl, -, hbefore, hafter⟩ := h
  rcases List.mem_append.mp hmem with hmem | hmem
  · exact absurd hy (hbefore y hmem)
  · rcases List.mem_cons.mp hmem with rfl | hmem
    · rfl
    · exact absurd hy (hafter y hmem)

end Only

/-! ## Places and resources -/

/-- No two globals are bound at one place. -/
def StageInterface.BindsApart (stage : StageInterface) : Prop :=
  stage.globals.Pairwise fun var later => var.binding.isSome → var.binding ≠ later.binding

instance (stage : StageInterface) : Decidable stage.BindsApart :=
  inferInstanceAs (Decidable (stage.globals.Pairwise _))

/-- A global that is bound at a place of its own is the only one there. -/
theorem StageInterface.BindsApart.isOnly {stage : StageInterface} (hapart : stage.BindsApart) {var : Global}
    {place : ResourceBinding} (hvar : var ∈ stage.globals) (hplace : var.binding = some place) :
    IsOnly (fun other => other.binding = some place) stage.globals var := by
  obtain ⟨before, after, hsplit⟩ := List.append_of_mem hvar
  unfold BindsApart at hapart
  rw [hsplit, List.pairwise_append, List.pairwise_cons] at hapart
  obtain ⟨-, ⟨hbehind, -⟩, hfront⟩ := hapart
  refine ⟨before, after, hsplit, hplace, ?_, ?_⟩
  · intro other hother hsame
    exact hfront other hother var List.mem_cons_self (by simp [hsame]) (hsame.trans hplace.symm)
  · intro other hother hsame
    exact hbehind other hother (by simp [hplace]) (hplace.trans hsame.symm)

/-- The least size of a buffer that holds some bytes. For none there is no least size. -/
inductive LeastSize : Nat → Option Nat → Prop
  | none : LeastSize 0 none
  | some {span : Nat} : 0 < span → LeastSize span (some span)

/-- The resource that a global is. -/
inductive Global.IsResource (var : Global) : ResourceKind → Prop
  | texture {shape : ImageShape} : var.type = .image shape → var.IsResource .texture
  | sampler {comparison : Bool} : var.type = .sampler comparison → var.IsResource .sampler
  | uniformBuffer {title : String} {members : Members} {span : Nat} {minimum : Option Nat} :
      var.space = .uniform → var.type = .record title members span → LeastSize span minimum →
      var.IsResource (.uniformBuffer minimum)

/-- Images come first, then samplers, then buffers. -/
def ResourceKind.rank : ResourceKind → Nat
  | texture => 0
  | sampler => 1
  | uniformBuffer _ => 2

theorem leastSize_iff {span : Nat} {minimum : Option Nat} :
    LeastSize span minimum ↔ minimum = if span = 0 then none else some span := by
  constructor
  · intro h
    cases h with
    | none => rfl
    | some hpos => rw [if_neg (by omega)]
  · rintro rfl
    split
    · next hzero => exact hzero ▸ .none
    · next hpos => exact .some (by omega)

/-- The rank of the resources that are of a type. -/
def Ty.rank : Ty → Nat
  | image _ => 0
  | sampler _ => 1
  | _ => 2

/-- A global is a resource of one kind, the one of its type. -/
theorem Global.IsResource.rank_eq {var : Global} {kind : ResourceKind} (h : var.IsResource kind) :
    kind.rank = var.type.rank := by
  cases h with
  | texture htype => rw [htype]; rfl
  | sampler htype => rw [htype]; rfl
  | uniformBuffer _ htype _ => rw [htype]; rfl

/-! ## Entries and slots -/

namespace UniformLayout

variable {layout : UniformLayout} {stage : StageInterface}

theorem mem_entries_texture_iff {binding : Nat} :
    ⟨binding, .texture⟩ ∈ layout.entries ↔ layout.texture = some binding := by
  simp [entries, ParamsBlock.entry]

theorem mem_entries_sampler_iff {binding : Nat} :
    ⟨binding, .sampler⟩ ∈ layout.entries ↔ layout.sampler = some binding := by
  simp [entries, ParamsBlock.entry]

theorem mem_entries_uniformBuffer_iff {binding : Nat} {minimum : Option Nat} :
    ⟨binding, .uniformBuffer minimum⟩ ∈ layout.entries ↔
      ∃ block, layout.params = some block ∧ block.binding = binding ∧ LeastSize block.size minimum := by
  simp only [leastSize_iff]
  cases hparams : layout.params with
  | none => simp [entries, hparams]
  | some block => simp [entries, ParamsBlock.entry, hparams, @eq_comm _ minimum, @eq_comm _ binding]

theorem pairwise_rank_entries (layout : UniformLayout) :
    layout.entries.Pairwise fun entry later => entry.kind.rank < later.kind.rank := by
  obtain ⟨texture, sampler, params⟩ := layout
  cases texture <;> cases sampler <;> cases params <;>
    simp [entries, ParamsBlock.entry, ResourceKind.rank]

/-! ## Owners -/

/-- What fills a slot comes from a global of its kind, in group 0. -/
theorem exists_owner {α : Type} {kind : Global → Prop} {has : Global → α → Prop} {value : α} {binding : Nat}
    (hinside : ∀ var ∈ stage.globals, var.IsRelevant → ¬ var.IsOutside)
    (hkind : ∀ var : Global, kind var → var.IsRelevant)
    (hbinding : ∀ var : Global, has var value → var.HasBinding binding)
    (hslot : FromLast kind has stage.globals (some value)) :
    ∃ var ∈ stage.globals, kind var ∧ has var value ∧ var.binding = some ⟨0, binding⟩ := by
  obtain ⟨var, hlast, hvalue⟩ := hslot
  obtain ⟨-, -, -, hvar, -⟩ := id hlast
  obtain ⟨group, hplace⟩ := hbinding var hvalue
  have hzero : group = 0 := by
    by_contra hgroup
    exact hinside var hlast.mem (hkind var hvar) ⟨_, hplace, hgroup⟩
  exact ⟨var, hlast.mem, hvar, hvalue, hzero ▸ hplace⟩

/-- An entry says what the global at its place is. -/
theorem exists_resource (hresolve : resolve stage = .ok layout) {entry : LayoutEntry}
    (hentry : entry ∈ layout.entries) :
    ∃ var ∈ stage.globals, var.binding = some ⟨0, entry.binding⟩ ∧ var.IsResource entry.kind := by
  obtain ⟨hfirst, hlayout⟩ := resolve_eq_ok_iff.mp hresolve
  have hinside := firstMisplaced?_eq_none_iff_isOutside.mp hfirst
  obtain ⟨htexture, hsampler, hparams⟩ := overwrite_eq_iff.mp hlayout.symm
  obtain ⟨binding, kind⟩ := entry
  cases kind with
  | texture =>
    rw [mem_entries_texture_iff.mp hentry] at htexture
    obtain ⟨var, hvar, ⟨-, -, shape, htype⟩, -, hplace⟩ :=
      exists_owner hinside (fun _ h => .inl h) (fun _ h => h) htexture
    exact ⟨var, hvar, hplace, .texture htype⟩
  | sampler =>
    rw [mem_entries_sampler_iff.mp hentry] at hsampler
    obtain ⟨var, hvar, ⟨-, -, comparison, htype⟩, -, hplace⟩ :=
      exists_owner hinside (fun _ h => .inr (.inl h)) (fun _ h => h) hsampler
    exact ⟨var, hvar, hplace, .sampler htype⟩
  | uniformBuffer minimum =>
    obtain ⟨block, hblock, rfl, hleast⟩ := mem_entries_uniformBuffer_iff.mp hentry
    rw [hblock] at hparams
    obtain ⟨var, hvar, ⟨-, hspace, -⟩, ⟨-, title, members, htype, -⟩, hplace⟩ :=
      exists_owner hinside (fun _ h => .inr (.inr h)) (fun _ h => h.1) hparams
    exact ⟨var, hvar, hplace, .uniformBuffer hspace htype hleast⟩

/-! ## The contract -/

/-- What holds of the entries of a layout that was resolved. -/
structure EntriesContract (stage : StageInterface) (layout : UniformLayout) : Prop where
  /-- There is an entry for each slot that is filled, and no other: the image, -/
  texture_iff : ∀ binding, ⟨binding, .texture⟩ ∈ layout.entries ↔ layout.texture = some binding
  /-- the sampler, -/
  sampler_iff : ∀ binding, ⟨binding, .sampler⟩ ∈ layout.entries ↔ layout.sampler = some binding
  /-- and the block, with its size. -/
  buffer_iff : ∀ binding minimum, ⟨binding, .uniformBuffer minimum⟩ ∈ layout.entries ↔
    ∃ block, layout.params = some block ∧ block.binding = binding ∧ LeastSize block.size minimum
  /-- They come in this order, and no kind comes twice. -/
  ordered : layout.entries.Pairwise fun entry later => entry.kind.rank < later.kind.rank
  /-- No number is used twice. -/
  apart : (layout.entries.map (·.binding)).Nodup
  /-- Of the globals one is bound at the number in group 0, and it is what the entry says. -/
  owned : ∀ entry ∈ layout.entries, ∃ var,
    IsOnly (fun other => other.binding = some ⟨0, entry.binding⟩) stage.globals var ∧ var.IsResource entry.kind

/-- Where no two globals are bound at one place, the entries of what is resolved have numbers of their own, and
each says what the only global at its number is. -/
theorem entries_of_resolve (hapart : stage.BindsApart) (hresolve : resolve stage = .ok layout) :
    EntriesContract stage layout where
  texture_iff _ := mem_entries_texture_iff
  sampler_iff _ := mem_entries_sampler_iff
  buffer_iff _ _ := mem_entries_uniformBuffer_iff
  ordered := pairwise_rank_entries layout
  apart := by
    rw [List.Nodup, List.pairwise_map]
    refine (pairwise_rank_entries layout).imp_of_mem ?_
    intro entry later hentry hlater hrank hsame
    obtain ⟨var, hvar, hplace, hkind⟩ := exists_resource hresolve hentry
    obtain ⟨other, hother, hplace', hkind'⟩ := exists_resource hresolve hlater
    have hone : other = var := (hapart.isOnly hvar hplace).eq_of_mem hother (hsame ▸ hplace')
    exact Nat.ne_of_lt hrank (hkind.rank_eq.trans (hone ▸ hkind'.rank_eq).symm)
  owned entry hentry := by
    obtain ⟨var, hvar, hplace, hkind⟩ := exists_resource hresolve hentry
    exact ⟨var, hapart.isOnly hvar hplace, hkind⟩

/-- A stage with two images and two blocks for the frame's, each in a place of its own, and an image in another
group at a number that is used in group 0. -/
def contestedStage : StageInterface where
  entryPoints := []
  globals := [
    ⟨some "_to_texture", .handle, some ⟨0, 3⟩, .image .picture⟩,
    ⟨some "first", .uniform, some ⟨0, 2⟩, .record "First" (.ofList [⟨some "progress", .scalar .float32, none, 0⟩]) 4⟩,
    ⟨some "_to_sampler", .handle, some ⟨0, 1⟩, .sampler false⟩,
    ⟨some "noise", .handle, some ⟨1, 5⟩, .image .picture⟩,
    ⟨some "_to_texture", .handle, some ⟨0, 0⟩, .image .picture⟩,
    ⟨some "second", .uniform, some ⟨0, 5⟩,
      .record "Second" (.ofList [⟨some "resolution", .vector .two .float32, none, 8⟩]) 16⟩]

/-- The later image and the later block own the entries. -/
theorem entries_of_resolve_contestedStage :
    contestedStage.BindsApart ∧ resolve contestedStage = .ok ⟨some 0, some 1, some ⟨5, 16, none, some 8⟩⟩ ∧
      EntriesContract contestedStage ⟨some 0, some 1, some ⟨5, 16, none, some 8⟩⟩ :=
  ⟨by decide, rfl, entries_of_resolve (by decide) rfl⟩

end UniformLayout

end FrameTransition.Shader
