import PolicyKeeper.Proofs.LoadOutcomes

/-!
# Stacks that callers leave

How much of the stack a caller leaves makes one difference to a load: whether it
is used up.  If it is, the load ends with that fault; if not, the load comes to
what it comes to on a stack that is never used up.
-/

namespace PolicyKeeper

variable {τ : Type} {stack : CallStack} {store : FileStore τ}

namespace CallStack

/-- The stack has room for so many elements inside one another. -/
def HasRoom (stack : CallStack) (room : Nat) : Prop :=
  ∀ here e, here.nesting < room → stack.isUsedUp here e = false

theorem HasRoom.mono {room less : Nat} (h : stack.HasRoom room) (hle : less ≤ room) :
    stack.HasRoom less :=
  fun here e hnesting => h here e (Nat.lt_of_lt_of_le hnesting hle)

@[simp] theorem isUsedUp_endless (here : Inclusion.Surroundings) (e : Element) :
    endless.isUsedUp here e = false := rfl

theorem hasRoom_ofRoom (room : Nat) : (ofRoom room).HasRoom room :=
  fun _ _ hnesting => decide_eq_false (Nat.not_le_of_lt hnesting)

end CallStack

namespace Inclusion

/-! ## Expansions -/

/-- The first outcome is that the stack was used up, or else the second one. -/
def IsUsedUpOr {α : Type} (outcome outcome' : Except InclusionFault α) : Prop :=
  outcome = .error .nestedTooDeep ∨ outcome = outcome'

theorem IsUsedUpOr.bind {α β : Type} {outcome outcome' : Except InclusionFault α}
    {next next' : α → Except InclusionFault β} (h : IsUsedUpOr outcome outcome')
    (hnext : ∀ value, IsUsedUpOr (next value) (next' value)) :
    IsUsedUpOr (outcome >>= next) (outcome' >>= next') := by
  rcases h with rfl | rfl
  · exact .inl rfl
  · cases outcome with
    | error fault => exact .inr rfl
    | ok value => exact hnext value

theorem IsUsedUpOr.map {α β : Type} {outcome outcome' : Except InclusionFault α}
    (h : IsUsedUpOr outcome outcome') (next : α → Except InclusionFault β) :
    IsUsedUpOr (outcome >>= next) (outcome' >>= next) :=
  h.bind fun _ => .inr rfl

section

variable {replace replace' : Surroundings → Element → Except InclusionFault Node}

mutual

theorem isUsedUpOr_expandNode
    (hreplace : ∀ here directive, IsUsedUpOr (replace here directive) (replace' here directive)) :
    ∀ (here : Surroundings) (node : Node),
      IsUsedUpOr (expandNode stack replace here node) (expandNode .endless replace' here node)
  | _, .text _ => .inr rfl
  | _, .remark => .inr rfl
  | here, .element tag attributes content => by
      have hcontent :=
        isUsedUpOr_expandNodes hreplace { here with nesting := here.nesting + 1 } content
      rw [expandNode, expandNode, CallStack.isUsedUp_endless, if_neg Bool.false_ne_true]
      by_cases hused : stack.isUsedUp here ⟨tag, attributes, content⟩ = true
      · exact .inl (if_pos hused)
      · rw [if_neg hused]
        split_ifs
        · exact hreplace here _
        · exact .inr rfl
        · exact hcontent.map _

theorem isUsedUpOr_expandNodes
    (hreplace : ∀ here directive, IsUsedUpOr (replace here directive) (replace' here directive)) :
    ∀ (here : Surroundings) (nodes : List Node),
      IsUsedUpOr (expandNodes stack replace here nodes) (expandNodes .endless replace' here nodes)
  | _, [] => .inr rfl
  | here, node :: rest => by
      rw [expandNodes, expandNodes]
      exact (isUsedUpOr_expandNode hreplace here node).bind fun _ =>
        (isUsedUpOr_expandNodes hreplace here rest).map _

end

end

theorem isUsedUpOr_replacement
    {loadRoot loadRoot' : Surroundings → String → Except InclusionFault Element}
    (hroot : ∀ here path, IsUsedUpOr (loadRoot here path) (loadRoot' here path))
    (here : Surroundings) (directive : Element) :
    IsUsedUpOr (replacement store loadRoot here directive)
      (replacement store loadRoot' here directive) := by
  unfold replacement
  simp only
  split_ifs
  · refine .bind (.inr rfl) fun path => ?_
    split_ifs
    · exact .inr rfl
    · exact (hroot here path).map _
  · exact .inr rfl
  · exact .inr rfl

theorem isUsedUpOr_expandWithin (chain : Nat) (here : Surroundings) (e : Element) :
    IsUsedUpOr (expandWithin stack store chain here e)
      (expandWithin .endless store chain here e) := by
  induction chain generalizing here e with
  | zero =>
      exact (isUsedUpOr_expandNodes (isUsedUpOr_replacement fun _ _ => .inr rfl) _ _).map _
  | succ chain ih =>
      refine (isUsedUpOr_expandNodes (isUsedUpOr_replacement fun here path => ?_) _ _).map _
      exact .bind (.inr rfl) fun root => ih _ root

theorem isUsedUpOr_expand (stack : CallStack) (store : FileStore τ) (base : String) (e : Element) :
    IsUsedUpOr (expand stack store base e) (expand .endless store base e) := by
  rw [expand, expand]
  exact isUsedUpOr_expandWithin _ _ _

end Inclusion

namespace PolicyFile

/-! ## Loads -/

variable {includes : Bool} {path : String}

theorem expandIncludes_usedUp_or_eq {base : String} {root : Element} :
    expandIncludes stack store includes base root = .fail (.inclusion .nestedTooDeep) ∨
      expandIncludes stack store includes base root =
        expandIncludes .endless store includes base root := by
  unfold expandIncludes
  cases includes with
  | false =>
      rw [if_neg Bool.false_ne_true, if_neg Bool.false_ne_true]
      exact .inr rfl
  | true =>
      rw [if_pos rfl, if_pos rfl]
      rcases Inclusion.isUsedUpOr_expand stack store base root with hused | hsame
      · left
        rw [hused, mapError_error]
        rfl
      · right
        rw [hsame]

/-- A load ends because the stack is used up, or it comes to what it comes to on
a stack that is never used up. -/
theorem load_usedUp_or_eq (stack : CallStack) (store : FileStore τ) (includes : Bool)
    (path : String) :
    (load stack store includes path).outcome = .error (.inclusion .nestedTooDeep) ∨
      load stack store includes path = load .endless store includes path := by
  cases hread : store.read path with
  | error fault =>
      right
      unfold load
      rw [hread, mapError_error, Noted.ofExcept_error_bind, Noted.ofExcept_error_bind]
  | ok octets =>
      rw [load_of_octets hread, load_of_octets hread, Noted.note_bind, Noted.note_bind]
      unfold parse
      dsimp only
      cases Markup.readOctets octets with
      | error fault =>
          rw [mapError_error, Noted.ofExcept_error_bind, Noted.ofExcept_error_bind]
          exact .inr rfl
      | ok root =>
          rw [mapError_ok, Noted.ofExcept_ok_bind, Noted.ofExcept_ok_bind]
          unfold ofElement
          rcases expandIncludes_usedUp_or_eq with hused | hsame
          · rw [hused]
            exact .inl rfl
          · rw [hsame]
            exact .inr rfl

theorem load_endless_of_ok {set : PolicySet}
    (hload : (load stack store includes path).outcome = .ok set) :
    (load .endless store includes path).outcome = .ok set := by
  rcases load_usedUp_or_eq stack store includes path with hused | hsame
  · simp [hused] at hload
  · rwa [← hsame]

/-- Loads agree on all stacks that are not used up. -/
theorem load_eq_of_not_usedUp {stack' : CallStack}
    (hleft : (load stack store includes path).outcome ≠ .error (.inclusion .nestedTooDeep))
    (hleft' : (load stack' store includes path).outcome ≠ .error (.inclusion .nestedTooDeep)) :
    load stack' store includes path = load stack store includes path := by
  have hsame := (load_usedUp_or_eq stack store includes path).resolve_left hleft
  have hsame' := (load_usedUp_or_eq stack' store includes path).resolve_left hleft'
  rw [hsame, hsame']

end PolicyFile

end PolicyKeeper
