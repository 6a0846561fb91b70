import Mathlib.Logic.Relation
import PolicyKeeper.Inclusion

/-!
# Faults of inclusion

An expansion walks through the nodes of a file and through those of the files
that are included.  It ends with a fault exactly when it comes to a place that
refuses its next node; every place on the way there is one step from the place
before it.  A file that was read has a name, so its directives always have
something to start from.  A stack that is used up makes no other difference than
that it refuses elements.
-/

namespace PolicyKeeper

variable {τ : Type} {store : FileStore τ} {stack : CallStack}

namespace FileStore

theorem entry_empty (store : FileStore τ) : store.entry "" = .error (.missing "") := by
  unfold entry
  rw [if_neg (by decide), if_pos rfl]

theorem read_empty (store : FileStore τ) : store.read "" = .error (.missing "") := by
  unfold read
  rw [entry_empty]
  rfl

end FileStore

namespace Inclusion

/-! ## Included roots -/

def Surroundings.within (here : Surroundings) (path : String) : Surroundings :=
  { base := path, targets := path :: here.targets, nesting := here.nesting + 1 }

/-- The root of a target as it is read, where a chain of `chain` files is
allowed. -/
def enter (store : FileStore τ) :
    Nat → Surroundings → String → Except InclusionFault Element
  | 0, _, path => .error (.chainTooLong path)
  | _ + 1, _, path => loadElement store path

def includedRoot (stack : CallStack) (store : FileStore τ) (chain : Nat) (here : Surroundings)
    (path : String) : Except InclusionFault Element :=
  enter store chain here path >>= expandWithin stack store (chain - 1) (here.within path)

theorem expandWithin_eq (stack : CallStack) (store : FileStore τ) (chain : Nat)
    (here : Surroundings) (e : Element) :
    expandWithin stack store chain here e =
      (expandNodes stack (replacement store (includedRoot stack store chain)) here e.content >>=
        fun content => .ok { e with content }) := by
  cases chain with
  | zero => rfl
  | succ chain => rfl

/-! ## Directives -/

/-- A directive stands for the root element of a file that is not around it. -/
structure Names (here : Surroundings) (directive : Element) (path : String) : Prop where
  kind_eq : (directive.attribute? "parse").getD "xml" = "xml"
  target_eq : target here (directive.attribute? "href") = .ok path
  not_mem : path ∉ here.targets

variable {here : Surroundings} {directive : Element}

theorem Names.path_eq {path other : String} (hnames : Names here directive other)
    (htarget : target here (directive.attribute? "href") = .ok path) : other = path :=
  Except.ok.inj (hnames.target_eq.symm.trans htarget)

/-- Where a root is made in two steps, a directive fails in what comes before
the second one, or in that one. -/
theorem replacement_eq_error_iff
    {first : Surroundings → String → Except InclusionFault Element}
    {second : Surroundings → String → Element → Except InclusionFault Element}
    {fault : InclusionFault} :
    replacement store (fun here path => first here path >>= second here path) here directive =
        .error fault ↔
      replacement store first here directive = .error fault ∨
        ∃ path root, Names here directive path ∧ first here path = .ok root ∧
          second here path root = .error fault := by
  by_cases hkind : (directive.attribute? "parse").getD "xml" = "xml"
  · unfold replacement
    simp only [hkind, if_true]
    cases htarget : target here (directive.attribute? "href") with
    | error cause =>
        have hunnamed : ∀ path, ¬ Names here directive path := by
          rintro path ⟨-, hpath, -⟩
          simp [htarget] at hpath
        simp [hunnamed]
    | ok path =>
        by_cases hmem : path ∈ here.targets
        · have hunnamed : ∀ other, ¬ Names here directive other := by
            intro other hnames
            exact hnames.not_mem (hnames.path_eq htarget ▸ hmem)
          simp [hmem, hunnamed]
        · have hnames : ∀ other, Names here directive other ↔ other = path := by
            intro other
            refine ⟨fun hnames => hnames.path_eq htarget, ?_⟩
            rintro rfl
            exact ⟨hkind, htarget, hmem⟩
          simp only [ok_bind, List.contains_eq_mem, hmem, decide_false, Bool.false_eq_true,
            if_false, hnames]
          cases hfirst : first here path with
          | error cause => simp [hfirst]
          | ok root => simp [hfirst, bind_eq_error]
  · have hunnamed : ∀ path, ¬ Names here directive path := fun _ hnames => hkind hnames.kind_eq
    simp only [hunnamed, false_and, exists_false, or_false]
    unfold replacement
    simp only [hkind, if_false]

theorem target_eq_error {href : Option String} {fault : InclusionFault}
    (hfault : target here href = .error fault) :
    (here.base = "" ∧ fault = .withoutTarget) ∨ ∃ cause, fault = .url cause := by
  unfold target at hfault
  split at hfault
  next hbase =>
    cases href with
    | some href => simp at hfault
    | none => exact .inl ⟨hbase, (Except.error.inj hfault).symm⟩
  next =>
    obtain ⟨cause, -, hcause⟩ := mapError_eq_error.1 hfault
    exact .inr ⟨cause, hcause.symm⟩

theorem loadText_eq_error {path : String} {encoding : Option String} {fault : InclusionFault}
    (hfault : loadText store path encoding = .error fault) :
    (∃ cause, fault = .file cause) ∨ ∃ cause, fault = .text cause := by
  unfold loadText at hfault
  rcases bind_eq_error.1 hfault with hread | ⟨octets, -, hrest⟩
  · obtain ⟨cause, -, hcause⟩ := mapError_eq_error.1 hread
    exact .inl ⟨cause, hcause.symm⟩
  · rcases bind_eq_error.1 hrest with hdecode | ⟨_, -, hend⟩
    · obtain ⟨cause, -, hcause⟩ := mapError_eq_error.1 hdecode
      exact .inr ⟨cause, hcause.symm⟩
    · simp at hend

theorem loadElement_eq_error {path : String} {fault : InclusionFault}
    (hfault : loadElement store path = .error fault) :
    (∃ cause, fault = .file cause) ∨ ∃ cause, fault = .markup cause := by
  unfold loadElement at hfault
  rcases bind_eq_error.1 hfault with hread | ⟨octets, -, hmarkup⟩
  · obtain ⟨cause, -, hcause⟩ := mapError_eq_error.1 hread
    exact .inl ⟨cause, hcause.symm⟩
  · obtain ⟨cause, -, hcause⟩ := mapError_eq_error.1 hmarkup
    exact .inr ⟨cause, hcause.symm⟩

theorem path_ne_of_loadElement {path : String} {root : Element}
    (hload : loadElement store path = .ok root) : path ≠ "" := by
  rintro rfl
  obtain ⟨octets, hread, -⟩ := bind_eq_ok.1 hload
  rw [FileStore.read_empty] at hread
  simp at hread

theorem enter_eq_error {chain : Nat} {path : String} {fault : InclusionFault}
    (hfault : enter store chain here path = .error fault) :
    fault ≠ .nestedTooDeep ∧ fault ≠ .withoutTarget := by
  cases chain with
  | zero =>
      obtain rfl := Except.error.inj hfault
      exact ⟨by simp, by simp⟩
  | succ inner =>
      rcases loadElement_eq_error hfault with ⟨_, rfl⟩ | ⟨_, rfl⟩
      · exact ⟨by simp, by simp⟩
      · exact ⟨by simp, by simp⟩

theorem replacement_eq_error
    {loadRoot : Surroundings → String → Except InclusionFault Element} {fault : InclusionFault}
    (hfault : replacement store loadRoot here directive = .error fault) :
    (∃ path, Names here directive path ∧ loadRoot here path = .error fault) ∨
      fault ≠ .nestedTooDeep ∧ (fault = .withoutTarget → here.base = "") := by
  have hown : ∀ cause, target here (directive.attribute? "href") = .error cause →
      cause ≠ .nestedTooDeep ∧ (cause = .withoutTarget → here.base = "") := by
    intro cause htarget
    rcases target_eq_error htarget with ⟨hbase, rfl⟩ | ⟨_, rfl⟩
    · exact ⟨by simp, fun _ => hbase⟩
    · exact ⟨by simp, by simp⟩
  unfold replacement at hfault
  simp only at hfault
  split at hfault
  next hkind =>
    rcases bind_eq_error.1 hfault with htarget | ⟨path, htarget, hload⟩
    · exact .inr (hown _ htarget)
    · split at hload
      next =>
        obtain rfl := Except.error.inj hload
        exact .inr ⟨by simp, by simp⟩
      next hnew =>
        rcases bind_eq_error.1 hload with hroot | ⟨_, -, hend⟩
        · exact .inl ⟨path, ⟨hkind, htarget, by simpa using hnew⟩, hroot⟩
        · simp at hend
  next =>
    split at hfault
    next =>
      rcases bind_eq_error.1 hfault with htarget | ⟨path, -, hload⟩
      · exact .inr (hown _ htarget)
      · rcases bind_eq_error.1 hload with htext | ⟨_, -, hend⟩
        · rcases loadText_eq_error htext with ⟨_, rfl⟩ | ⟨_, rfl⟩ <;> exact .inr ⟨by simp, by simp⟩
        · simp at hend
    next =>
      split at hfault <;> obtain rfl := Except.error.inj hfault <;> exact .inr ⟨by simp, by simp⟩

/-! ## Places -/

/-- A place in a walk: what surrounds it, the nodes still to come there, and how
many more files a chain may have. -/
structure Place where
  chain : Nat
  here : Surroundings
  nodes : List Node

def Place.start (base : String) (e : Element) : Place :=
  { chain := longestChain, here := { base, targets := [], nesting := 0 }, nodes := e.content }

namespace Place

def walk (stack : CallStack) (store : FileStore τ) (place : Place) :
    Except InclusionFault (List Node) :=
  expandNodes stack (replacement store (includedRoot stack store place.chain)) place.here
    place.nodes

/-- Elements with this tag are gone into. -/
def IsPlain (tag : String) : Prop := tag ≠ includeTag ∧ tag ≠ fallbackTag

/-- The walk goes on from one place at another: past a node that could be
replaced, into an element, or into an included file. -/
inductive Leads (stack : CallStack) (store : FileStore τ) : Place → Place → Prop
  | past {chain : Nat} {here : Surroundings} {node node' : Node} {rest : List Node}
      (hnode : expandNode stack (replacement store (includedRoot stack store chain)) here node =
        .ok node') :
      Leads stack store ⟨chain, here, node :: rest⟩ ⟨chain, here, rest⟩
  | into {chain : Nat} {here : Surroundings} {tag : String}
      {attributes : List (String × String)} {content rest : List Node}
      (hroom : stack.isUsedUp here ⟨tag, attributes, content⟩ = false) (hplain : IsPlain tag) :
      Leads stack store ⟨chain, here, .element tag attributes content :: rest⟩
        ⟨chain, { here with nesting := here.nesting + 1 }, content⟩
  | included {chain : Nat} {here : Surroundings} {attributes : List (String × String)}
      {content rest : List Node} {path : String} {root : Element}
      (hroom : stack.isUsedUp here ⟨includeTag, attributes, content⟩ = false)
      (hnames : Names here ⟨includeTag, attributes, content⟩ path)
      (hload : loadElement store path = .ok root) :
      Leads stack store ⟨chain + 1, here, .element includeTag attributes content :: rest⟩
        ⟨chain, here.within path, root.content⟩

/-- The next node of a place cannot be replaced, whatever an included file
contains. -/
inductive Refuses (stack : CallStack) (store : FileStore τ) : Place → InclusionFault → Prop
  | nested {chain : Nat} {here : Surroundings} {tag : String}
      {attributes : List (String × String)} {content rest : List Node}
      (hused : stack.isUsedUp here ⟨tag, attributes, content⟩ = true) :
      Refuses stack store ⟨chain, here, .element tag attributes content :: rest⟩ .nestedTooDeep
  | stray {chain : Nat} {here : Surroundings} {attributes : List (String × String)}
      {content rest : List Node}
      (hroom : stack.isUsedUp here ⟨fallbackTag, attributes, content⟩ = false) :
      Refuses stack store ⟨chain, here, .element fallbackTag attributes content :: rest⟩
        .strayFallback
  | directive {chain : Nat} {here : Surroundings} {attributes : List (String × String)}
      {content rest : List Node} {fault : InclusionFault}
      (hroom : stack.isUsedUp here ⟨includeTag, attributes, content⟩ = false)
      (hfault : replacement store (enter store chain) here ⟨includeTag, attributes, content⟩ =
        .error fault) :
      Refuses stack store ⟨chain, here, .element includeTag attributes content :: rest⟩ fault

variable {place place' : Place} {fault : InclusionFault}

theorem fallbackTag_ne : fallbackTag ≠ includeTag := by decide

theorem walk_cons (chain : Nat) (here : Surroundings) (node : Node) (rest : List Node) :
    walk stack store ⟨chain, here, node :: rest⟩ =
      (expandNode stack (replacement store (includedRoot stack store chain)) here node >>=
        fun node => walk stack store ⟨chain, here, rest⟩ >>= fun rest => .ok (node :: rest)) := by
  simp only [walk, expandNodes]

theorem walk_cons_eq_error {chain : Nat} {node : Node} {rest : List Node}
    (hnode : expandNode stack (replacement store (includedRoot stack store chain)) here node =
      .error fault) :
    walk stack store ⟨chain, here, node :: rest⟩ = .error fault := by
  rw [walk_cons, hnode, error_bind]

theorem expandWithin_eq_error_iff {chain : Nat} {e : Element} :
    expandWithin stack store chain here e = .error fault ↔
      walk stack store ⟨chain, here, e.content⟩ = .error fault := by
  rw [expandWithin_eq, bind_eq_error]
  simp [walk]

/-- A fault of a directive is one of the place where it stands, or one of the
walk through the file that it names. -/
theorem directive_eq_error_iff {chain : Nat} :
    replacement store (includedRoot stack store chain) here directive = .error fault ↔
      replacement store (enter store chain) here directive = .error fault ∨
        ∃ path root, Names here directive path ∧ enter store chain here path = .ok root ∧
          walk stack store ⟨chain - 1, here.within path, root.content⟩ = .error fault := by
  rw [show includedRoot stack store chain = fun here path => enter store chain here path >>=
    expandWithin stack store (chain - 1) (here.within path) from rfl, replacement_eq_error_iff]
  simp only [expandWithin_eq_error_iff]

theorem walk_eq_error_of_leads (hleads : place.Leads stack store place')
    (hfault : place'.walk stack store = .error fault) : place.walk stack store = .error fault := by
  cases hleads with
  | past hnode => rw [walk_cons, hnode, ok_bind, hfault, error_bind]
  | into hroom hplain =>
      refine walk_cons_eq_error ?_
      unfold expandNode
      rw [hroom, if_neg Bool.false_ne_true, if_neg hplain.1, if_neg hplain.2, bind_eq_error]
      exact .inl hfault
  | included hroom hnames hload =>
      refine walk_cons_eq_error ?_
      unfold expandNode
      rw [hroom, if_neg Bool.false_ne_true, if_pos rfl, directive_eq_error_iff]
      exact .inr ⟨_, _, hnames, hload, hfault⟩

theorem walk_eq_error_of_refuses (hrefuses : place.Refuses stack store fault) :
    place.walk stack store = .error fault := by
  cases hrefuses with
  | nested hused =>
      refine walk_cons_eq_error ?_
      unfold expandNode
      rw [hused, if_pos rfl]
  | stray hroom =>
      refine walk_cons_eq_error ?_
      unfold expandNode
      rw [hroom, if_neg Bool.false_ne_true, if_neg fallbackTag_ne, if_pos rfl]
  | directive hroom hfault =>
      refine walk_cons_eq_error ?_
      unfold expandNode
      rw [hroom, if_neg Bool.false_ne_true, if_pos rfl, directive_eq_error_iff]
      exact .inl hfault

def Meets (stack : CallStack) (store : FileStore τ) (place : Place) (fault : InclusionFault) :
    Prop :=
  ∃ place', Relation.ReflTransGen (Leads stack store) place place' ∧
    place'.Refuses stack store fault

theorem meets_of_leads (hleads : place.Leads stack store place')
    (hmeets : place'.Meets stack store fault) : place.Meets stack store fault := by
  obtain ⟨last, hreaches, hrefuses⟩ := hmeets
  exact ⟨last, hreaches.head hleads, hrefuses⟩

theorem meets_of_refuses (hrefuses : place.Refuses stack store fault) :
    place.Meets stack store fault :=
  ⟨place, .refl, hrefuses⟩

/-- Every fault of shorter chains is met where it arises. -/
def MeetsInside (stack : CallStack) (store : FileStore τ) (chain : Nat) (fault : InclusionFault) :
    Prop :=
  ∀ inner here nodes, chain = inner + 1 → walk stack store ⟨inner, here, nodes⟩ = .error fault →
    Meets stack store ⟨inner, here, nodes⟩ fault

theorem meets_of_directive {chain : Nat} (hinside : MeetsInside stack store chain fault)
    {here : Surroundings} {attributes : List (String × String)} {content : List Node}
    (rest : List Node) (hroom : stack.isUsedUp here ⟨includeTag, attributes, content⟩ = false)
    (hfault : replacement store (includedRoot stack store chain) here
      ⟨includeTag, attributes, content⟩ = .error fault) :
    Meets stack store ⟨chain, here, .element includeTag attributes content :: rest⟩ fault := by
  rcases directive_eq_error_iff.1 hfault with hown | ⟨path, root, hnames, hroot, hwalk⟩
  · exact meets_of_refuses (.directive hroom hown)
  · cases chain with
    | zero => simp [enter] at hroot
    | succ inner =>
        exact meets_of_leads (.included hroom hnames hroot) (hinside inner _ _ rfl hwalk)

mutual

theorem meets_of_expandNode {chain : Nat} (hinside : MeetsInside stack store chain fault) :
    ∀ (here : Surroundings) (node : Node) (rest : List Node),
      expandNode stack (replacement store (includedRoot stack store chain)) here node =
        .error fault → Meets stack store ⟨chain, here, node :: rest⟩ fault
  | _, .text s, _, hfault => by simp [expandNode] at hfault
  | _, .remark, _, hfault => by simp [expandNode] at hfault
  | here, .element tag attributes content, rest, hfault => by
      unfold expandNode at hfault
      split at hfault
      next hused =>
        obtain rfl := Except.error.inj hfault
        exact meets_of_refuses (.nested hused)
      next hused =>
        rw [Bool.not_eq_true] at hused
        split at hfault
        next htag =>
          subst htag
          exact meets_of_directive hinside rest hused hfault
        next htag =>
          split at hfault
          next hfallback =>
            subst hfallback
            obtain rfl := Except.error.inj hfault
            exact meets_of_refuses (.stray hused)
          next hfallback =>
            rcases bind_eq_error.1 hfault with hcontent | ⟨_, -, hend⟩
            · exact meets_of_leads (.into hused ⟨htag, hfallback⟩)
                (meets_of_expandNodes hinside _ content hcontent)
            · simp at hend

theorem meets_of_expandNodes {chain : Nat} (hinside : MeetsInside stack store chain fault) :
    ∀ (here : Surroundings) (nodes : List Node),
      expandNodes stack (replacement store (includedRoot stack store chain)) here nodes =
        .error fault → Meets stack store ⟨chain, here, nodes⟩ fault
  | _, [], hfault => by simp [expandNodes] at hfault
  | here, node :: rest, hfault => by
      unfold expandNodes at hfault
      rcases bind_eq_error.1 hfault with hnode | ⟨node', hnode, hrest⟩
      · exact meets_of_expandNode hinside here node rest hnode
      · rcases bind_eq_error.1 hrest with hmore | ⟨_, -, hend⟩
        · exact meets_of_leads (.past hnode) (meets_of_expandNodes hinside here rest hmore)
        · simp at hend

end

/-- A walk ends with a fault exactly when it reaches a place that refuses its
next node for it. -/
theorem walk_eq_error_iff :
    place.walk stack store = .error fault ↔ place.Meets stack store fault := by
  constructor
  · obtain ⟨chain, here, nodes⟩ := place
    intro hfault
    -- Only a step into an included file leaves the nodes at hand, and it shortens the chain.
    induction chain generalizing here nodes with
    | zero => exact meets_of_expandNodes (fun _ _ _ hchain => by simp at hchain) here nodes hfault
    | succ chain ih =>
        refine meets_of_expandNodes ?_ here nodes hfault
        rintro inner here nodes hchain
        obtain rfl := Nat.succ.inj hchain
        exact ih here nodes
  · rintro ⟨last, hreaches, hrefuses⟩
    induction hreaches using Relation.ReflTransGen.head_induction_on with
    | refl => exact walk_eq_error_of_refuses hrefuses
    | head hleads _ ih => exact walk_eq_error_of_leads hleads ih

/-! ## Faults nobody expects -/

/-- The stack is used up at the element that comes next. -/
inductive IsTooDeep (stack : CallStack) : Place → Prop
  | element {chain : Nat} {here : Surroundings} {tag : String}
      {attributes : List (String × String)} {content rest : List Node}
      (hused : stack.isUsedUp here ⟨tag, attributes, content⟩ = true) :
      IsTooDeep stack ⟨chain, here, .element tag attributes content :: rest⟩

theorem refuses_nestedTooDeep_iff :
    place.Refuses stack store .nestedTooDeep ↔ place.IsTooDeep stack := by
  constructor
  · intro hrefuses
    cases hrefuses with
    | nested hused => exact .element hused
    | directive _ hfault =>
        rcases replacement_eq_error hfault with ⟨path, -, hroot⟩ | ⟨hown, -⟩
        · exact absurd rfl (enter_eq_error hroot).1
        · exact absurd rfl hown
  · intro hdeep
    cases hdeep with
    | element hused => exact .nested hused

theorem base_ne_of_leads (hleads : place.Leads stack store place')
    (hbase : place.here.base ≠ "") : place'.here.base ≠ "" := by
  cases hleads with
  | past => exact hbase
  | into => exact hbase
  | included _ _ hload => exact path_ne_of_loadElement hload

theorem base_ne_of_reaches (hreaches : Relation.ReflTransGen (Leads stack store) place place')
    (hbase : place.here.base ≠ "") : place'.here.base ≠ "" := by
  induction hreaches with
  | refl => exact hbase
  | tail _ hleads ih => exact base_ne_of_leads hleads ih

theorem base_eq_of_refuses (hrefuses : place.Refuses stack store .withoutTarget) :
    place.here.base = "" := by
  cases hrefuses with
  | directive _ hfault =>
      rcases replacement_eq_error hfault with ⟨path, -, hroot⟩ | ⟨-, hbase⟩
      · exact absurd rfl (enter_eq_error hroot).2
      · exact hbase rfl

end Place

theorem expand_eq_error_iff {base : String} {e : Element} {fault : InclusionFault} :
    expand stack store base e = .error fault ↔ (Place.start base e).Meets stack store fault := by
  unfold expand
  rw [Place.expandWithin_eq_error_iff]
  exact Place.walk_eq_error_iff

/-- The walk through a document and what it includes is too deep exactly where
it comes to an element at which the stack is used up. -/
theorem expand_nestedTooDeep_iff {base : String} {e : Element} :
    expand stack store base e = .error .nestedTooDeep ↔
      ∃ place, Relation.ReflTransGen (Place.Leads stack store) (Place.start base e) place ∧
        place.IsTooDeep stack := by
  rw [expand_eq_error_iff]
  simp only [Place.Meets, Place.refuses_nestedTooDeep_iff]

/-- In a document from a file, every directive has something to start from. -/
theorem expand_ne_withoutTarget (stack : CallStack) (store : FileStore τ) {base : String}
    (hbase : base ≠ "") (e : Element) : expand stack store base e ≠ .error .withoutTarget := by
  rw [ne_eq, expand_eq_error_iff]
  rintro ⟨place, hreaches, hrefuses⟩
  exact Place.base_ne_of_reaches hreaches hbase (Place.base_eq_of_refuses hrefuses)

end Inclusion

end PolicyKeeper
