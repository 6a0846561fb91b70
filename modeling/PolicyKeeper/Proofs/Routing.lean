import PolicyKeeper.Requests

/-!
# Where requests lead

A request reaches the first endpoint that its path fits and that takes its
method.  A check is reached under one path and by one method only.  Below the
path of the policies, a text that can be the open rest of a path leads to the
policy of that name, unless a fixed path comes before it.
-/

namespace PolicyKeeper

namespace Route

theorem ofRequest_eq_endpoint_iff {method : String} {path : List Char} {e : Endpoint} :
    ofRequest method path = .endpoint e ↔ Endpoint.find? method path = some e := by
  unfold ofRequest
  cases hfound : Endpoint.find? method path with
  | some found => simp
  | none =>
      simp only [reduceCtorEq, iff_false]
      cases Endpoint.find? method (RequestTarget.mergeSlashes path) with
      | some _ => simp
      | none =>
          simp only
          split <;> simp

end Route

namespace Endpoint

theorem mem_of_find? {method : String} {path : List Char} {e : Endpoint}
    (hfound : find? method path = some e) : e ∈ ofPath path ∧ method ∈ e.methods := by
  refine ⟨List.mem_of_find?_eq_some hfound, ?_⟩
  have htaken := List.find?_some hfound
  simpa using htaken

/-- The endpoint of a check has a fixed path. -/
theorem path_of_reload_mem {path : List Char} (hmem : .reload ∈ ofPath path) :
    path = "/api/policies/reload".toList := by
  have hlookup : fixedPaths.lookup (String.ofList path) = some .reload := by
    simpa [ofPath] using hmem
  obtain ⟨front, back, hfixed, -⟩ := List.lookup_eq_some_iff.1 hlookup
  have hpath : (String.ofList path, Endpoint.reload) ∈ fixedPaths := by simp [hfixed]
  have htext : String.ofList path = "/api/policies/reload" := by simpa [fixedPaths] using hpath
  rw [← htext, String.toList_ofList]

/-! ## Below the path of the policies -/

def pathBelow (s : List Char) : List Char := "/api/policies/".toList ++ s

theorem pathBelow_eq (s : List Char) : pathBelow s = "/api/policies/".toList ++ s := rfl

theorem pathBelow_eq_iff {s : List Char} {text rest : String}
    (htext : text.toList = pathBelow rest.toList) :
    pathBelow s = text.toList ↔ s = rest.toList := by
  rw [htext]
  exact List.append_right_inj _

theorem pathBelow_ne {s : List Char} {text : String} (hlength : text.toList.length < 14) :
    pathBelow s ≠ text.toList := by
  intro hpath
  have hlonger : 14 ≤ (pathBelow s).length := by
    simp [pathBelow_eq]
  rw [hpath] at hlonger
  omega

theorem lookup_fixedPaths_pathBelow (s : List Char) :
    fixedPaths.lookup (String.ofList (pathBelow s)) =
      if s = "status".toList then some .status
      else if s = "reload".toList then some .reload
      else none := by
  have hsame : ∀ text : String, (String.ofList (pathBelow s) == text) =
      decide (pathBelow s = text.toList) := by
    intro text
    rw [Bool.eq_iff_iff, beq_iff_eq, decide_eq_true_iff, ← String.toList_inj, String.toList_ofList]
  have hhealth : pathBelow s ≠ "/health".toList := pathBelow_ne (by decide)
  have hpolicies : pathBelow s ≠ "/api/policies".toList := pathBelow_ne (by decide)
  have hstatus : pathBelow s = "/api/policies/status".toList ↔ s = "status".toList :=
    pathBelow_eq_iff (by decide)
  have hreload : pathBelow s = "/api/policies/reload".toList ↔ s = "reload".toList :=
    pathBelow_eq_iff (by decide)
  simp only [fixedPaths, List.lookup_cons, List.lookup_nil, hsame, hhealth, hpolicies, hstatus,
    hreload, decide_false]
  split
  next hs => rw [if_pos (of_decide_eq_true hs)]
  next hs =>
    rw [if_neg (of_decide_eq_false hs)]
    split
    next hr => rw [if_pos (of_decide_eq_true hr)]
    next hr => rw [if_neg (of_decide_eq_false hr)]

theorem openPart?_eq (start : String) (s : List Char) :
    openPart? start (start.toList ++ s) =
      if isOpenPart s then some (String.ofList s) else none := by
  have hstarts : start.toList.isPrefixOf (start.toList ++ s) = true := by
    rw [List.isPrefixOf_iff_prefix]
    exact List.prefix_append _ _
  have hrest : (start.toList ++ s).drop start.length = s := by
    rw [← String.length_toList, List.drop_left]
  unfold openPart?
  rw [if_pos hstarts, hrest]

/-- Below the path of the policies there are two fixed paths.  Every rest that
can be open is the name of a policy. -/
theorem ofPath_pathBelow {c : Char} {rest : List Char} (hc : c ≠ '/') :
    ofPath (pathBelow (c :: rest)) =
      (if c :: rest = "status".toList then [.status]
        else if c :: rest = "reload".toList then [.reload]
        else []) ++
        if '\n' ∈ rest then [] else [.policy (String.ofList (c :: rest))] := by
  have hopen : openPart? "/api/policies/" (pathBelow (c :: rest)) =
      if '\n' ∈ rest then none else some (String.ofList (c :: rest)) := by
    rw [pathBelow_eq, openPart?_eq]
    by_cases hbreak : '\n' ∈ rest <;> simp [isOpenPart, hc, hbreak]
  have hstatic : openPart? "/static/" (pathBelow (c :: rest)) = none := by
    have hother : "/static/".toList.isPrefixOf (pathBelow (c :: rest)) = false := by
      simp [pathBelow_eq, List.isPrefixOf]
    unfold openPart?
    rw [hother]
    rfl
  unfold ofPath
  rw [lookup_fixedPaths_pathBelow, hopen, hstatic]
  split
  next => split <;> rfl
  next => split <;> split <;> rfl

theorem find?_get_pathBelow {c : Char} {rest : List Char} (hc : c ≠ '/') :
    find? "GET" (pathBelow (c :: rest)) =
      if c :: rest = "status".toList then some .status
      else if '\n' ∈ rest then none
      else some (.policy (String.ofList (c :: rest))) := by
  unfold find?
  rw [ofPath_pathBelow hc]
  split
  next => rfl
  next => split <;> split <;> rfl

theorem ne_of_broken {c : Char} {rest : List Char} {text : String} (hbreak : '\n' ∈ rest)
    (htext : '\n' ∉ text.toList) : c :: rest ≠ text.toList := by
  intro hsame
  exact htext (hsame ▸ List.mem_cons_of_mem c hbreak)

/-- A rest that is broken into lines leads nowhere. -/
theorem ofPath_of_broken {c : Char} {rest : List Char} (hc : c ≠ '/') (hbreak : '\n' ∈ rest) :
    ofPath (pathBelow (c :: rest)) = [] := by
  rw [ofPath_pathBelow hc, if_neg (ne_of_broken hbreak (by decide)),
    if_neg (ne_of_broken hbreak (by decide)), if_pos hbreak]
  rfl

end Endpoint

namespace RequestTarget

theorem mem_mergeSlashes {c : Char} (hc : c ≠ '/') {s : List Char} :
    c ∈ mergeSlashes s ↔ c ∈ s := by
  fun_induction mergeSlashes s with
  | case1 => rfl
  | case2 rest ih => simp [hc, ih]
  | case3 first rest _ ih => simp [ih]

theorem mergeSlashes_pathBelow {c : Char} {rest : List Char} (hc : c ≠ '/') :
    mergeSlashes (Endpoint.pathBelow (c :: rest)) =
      Endpoint.pathBelow (c :: mergeSlashes rest) := by
  simp [Endpoint.pathBelow_eq, mergeSlashes, hc]

end RequestTarget

/-- A policy is asked for by the rest of the path, unless that is the fixed path
of the bookkeeping, or is broken into lines. -/
theorem Route.ofRequest_get_pathBelow {c : Char} {rest : List Char} (hc : c ≠ '/') :
    ofRequest "GET" (Endpoint.pathBelow (c :: rest)) =
      if c :: rest = "status".toList then .endpoint .status
      else if '\n' ∈ rest then .nowhere
      else .endpoint (.policy (String.ofList (c :: rest))) := by
  by_cases hstatus : c :: rest = "status".toList
  · rw [if_pos hstatus, ofRequest_eq_endpoint_iff, Endpoint.find?_get_pathBelow hc, if_pos hstatus]
  · rw [if_neg hstatus]
    by_cases hbreak : '\n' ∈ rest
    · have hmerged : '\n' ∈ RequestTarget.mergeSlashes rest :=
        (RequestTarget.mem_mergeSlashes (by decide)).2 hbreak
      rw [if_pos hbreak]
      unfold ofRequest Endpoint.allowed Endpoint.find?
      simp only [RequestTarget.mergeSlashes_pathBelow hc, Endpoint.ofPath_of_broken hc hbreak,
        Endpoint.ofPath_of_broken hc hmerged]
      rfl
    · rw [if_neg hbreak, ofRequest_eq_endpoint_iff, Endpoint.find?_get_pathBelow hc,
        if_neg hstatus, if_neg hbreak]

end PolicyKeeper
