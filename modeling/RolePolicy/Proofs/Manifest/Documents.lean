import RolePolicy.Manifest.Kdl
import RolePolicy.Proofs.FirstDefect
import RolePolicy.Proofs.Sorted

/-!
# Manifests over several documents

Merging manifests puts verbs behind verbs, service by service, and roles behind
roles, and so does every node of a document.  What a node adds does not depend
on what the nodes in front of it have said.  A document is therefore read like
its nodes one by one, and a manifest may be cut into documents between any two
nodes.
-/

namespace RolePolicy

open Kdl (Node)

/-! ## Steps that put something behind a state -/

/-- Steps that each put something behind the state put behind it what they make
of the neutral state. -/
theorem foldlM_eq_map {σ α ε : Type} {op : σ → σ → σ} {unit : σ}
    {step : σ → α → Except ε σ}
    (hassoc : ∀ a b c, op (op a b) c = op a (op b c))
    (hunit : ∀ a, op a unit = a)
    (hstep : ∀ s a, step s a = (step unit a).map (op s)) (s : σ) (l : List α) :
    l.foldlM step s = (l.foldlM step unit).map (op s) := by
  induction l generalizing s with
  | nil => exact congrArg Except.ok (hunit s).symm
  | cons a l ih =>
      rw [List.foldlM_cons, List.foldlM_cons, hstep s a]
      cases step unit a with
      | error e => rfl
      | ok added =>
          show l.foldlM step (op s added) = (l.foldlM step added).map (op s)
          rw [ih (op s added), ih added]
          cases l.foldlM step unit with
          | error e => rfl
          | ok rest => exact congrArg Except.ok (hassoc s added rest)

/-! ## Merged catalogs -/

namespace Manifest

/-- The verbs of a second catalog behind those of a first one, service by
service. -/
def appendVerbs (first second : SortedMap String (List String)) :
    SortedMap String (List String) :=
  second.entries.foldl (fun c e => addVerbs c e.1 e.2) first

theorem catalog_merge (m m' : Manifest) :
    (m.merge m').catalog = appendVerbs m.catalog m'.catalog :=
  rfl

theorem get?_addVerbs (catalog : SortedMap String (List String))
    (service : String) (verbs : List String) (name : String) :
    (addVerbs catalog service verbs).get? name =
      (catalog.get? name).merge (· ++ ·)
        (if service = name then some verbs else none) := by
  rw [addVerbs, SortedMap.get?_alter]
  by_cases hname : service = name
  · subst hname
    cases catalog.get? service with
    | none => simp
    | some known => simp
  · simp [hname]

/-- Appended catalogs list a service if one of them does. -/
theorem get?_appendVerbs (first second : SortedMap String (List String))
    (name : String) :
    (appendVerbs first second).get? name =
      (first.get? name).merge (· ++ ·) (second.get? name) := by
  obtain ⟨entries, hascending⟩ := second
  simp only [appendVerbs, SortedMap.get?]
  induction entries generalizing first with
  | nil => simp
  | cons e entries ih =>
      obtain ⟨hlt, hrest⟩ := List.pairwise_cons.mp hascending
      have hadded := get?_addVerbs first e.1 e.2 name
      simp only [SortedMap.get?] at hadded
      rw [List.foldl_cons, ih _ hrest, hadded]
      by_cases he : e.1 = name
      · have hnone : entries.find? (fun e' => e'.1 = name) = none := by
          rw [List.find?_eq_none]
          intro e' he' heq
          have hgreater := hlt e' he'
          have hsame : e'.1 = name := by simpa using heq
          rw [he, hsame] at hgreater
          exact StrictTotalOrder.irrefl _ hgreater
        simp [he, hnone]
      · simp [he]

theorem appendVerbs_assoc (a b c : SortedMap String (List String)) :
    appendVerbs (appendVerbs a b) c = appendVerbs a (appendVerbs b c) := by
  apply SortedMap.ext_get?
  intro name
  simp only [get?_appendVerbs]
  exact Std.Associative.assoc _ _ _

theorem appendVerbs_empty (catalog : SortedMap String (List String)) :
    appendVerbs catalog ∅ = catalog :=
  rfl

theorem empty_appendVerbs (catalog : SortedMap String (List String)) :
    appendVerbs ∅ catalog = catalog := by
  apply SortedMap.ext_get?
  intro name
  rw [get?_appendVerbs, SortedMap.get?_empty, Option.merge_none_left]

/-- Adding verbs appends a catalog of one service. -/
theorem addVerbs_eq (catalog : SortedMap String (List String))
    (service : String) (verbs : List String) :
    addVerbs catalog service verbs =
      appendVerbs catalog (addVerbs ∅ service verbs) := by
  apply SortedMap.ext_get?
  intro name
  rw [get?_appendVerbs, get?_addVerbs, get?_addVerbs, SortedMap.get?_empty,
    Option.merge_none_left]

/-! ## The laws of merging -/

theorem merge_assoc (a b c : Manifest) :
    (a.merge b).merge c = a.merge (b.merge c) := by
  rw [merge, Manifest.mk.injEq]
  exact ⟨appendVerbs_assoc a.catalog b.catalog c.catalog,
    List.append_assoc a.roles b.roles c.roles⟩

theorem merge_empty (m : Manifest) : m.merge empty = m := by
  rw [merge, Manifest.mk.injEq]
  exact ⟨appendVerbs_empty m.catalog, List.append_nil m.roles⟩

theorem empty_merge (m : Manifest) : empty.merge m = m := by
  rw [merge, Manifest.mk.injEq]
  exact ⟨empty_appendVerbs m.catalog, List.nil_append m.roles⟩

instance : Std.Associative merge :=
  ⟨merge_assoc⟩

theorem mergeAll_cons (m : Manifest) (manifests : List Manifest) :
    mergeAll (m :: manifests) = m.merge (mergeAll manifests) := by
  rw [mergeAll, List.foldl_cons, empty_merge]
  conv_lhs => rw [← merge_empty m]
  exact List.foldl_assoc

/-! ## Documents in parts -/

theorem addService_eq_map (catalog : SortedMap String (List String))
    (child : Node) :
    addService catalog child = (addService ∅ child).map (appendVerbs catalog) := by
  unfold addService
  by_cases hservice : child.name = "service"
  · rw [if_pos hservice, if_pos hservice]
    cases child.firstArgument? with
    | none => rfl
    | some service =>
        cases listItems .service child with
        | error e => rfl
        | ok verbs => exact congrArg Except.ok (addVerbs_eq catalog service verbs)
  · rw [if_neg hservice, if_neg hservice]
    rfl

/-- A node adds the same to every manifest. -/
theorem addNode_eq_map (m : Manifest) (node : Node) :
    m.addNode node = (empty.addNode node).map m.merge := by
  unfold addNode
  by_cases hcatalog : node.name = "catalog"
  · rw [if_pos hcatalog, if_pos hcatalog,
      foldlM_eq_map appendVerbs_assoc appendVerbs_empty addService_eq_map]
    show _ = Except.map m.merge (do
      return { empty with catalog := ← node.children.foldlM addService ∅ })
    cases node.children.foldlM addService ∅ with
    | error e => rfl
    | ok catalog =>
        refine congrArg Except.ok ?_
        rw [merge, Manifest.mk.injEq]
        exact ⟨rfl, (List.append_nil m.roles).symm⟩
  · rw [if_neg hcatalog, if_neg hcatalog]
    by_cases hrole : node.name = "role"
    · rw [if_pos hrole, if_pos hrole]
      cases RoleSpec.ofNode node with
      | error e => rfl
      | ok r => rfl
    · rw [if_neg hrole, if_neg hrole]
      exact congrArg Except.ok (merge_empty m).symm

/-- The nodes of a document add the same to every manifest. -/
theorem foldlM_addNode (m : Manifest) (nodes : List Node) :
    nodes.foldlM addNode m = (ofNodes nodes).map m.merge :=
  foldlM_eq_map merge_assoc merge_empty addNode_eq_map m nodes

theorem ofNodes_append (first second : List Node) :
    ofNodes (first ++ second) = do
      let m ← ofNodes first
      let m' ← ofNodes second
      return m.merge m' := by
  rw [ofNodes, List.foldlM_append]
  show ofNodes first >>= (fun m => second.foldlM addNode m) = _
  simp only [foldlM_addNode]
  cases ofNodes first with
  | error e => rfl
  | ok m =>
      cases ofNodes second with
      | error e => rfl
      | ok m' => rfl

/-- Documents are read one after the other and merged. -/
theorem ofNodes_flatten (documents : List (List Node)) :
    ofNodes documents.flatten = (documents.mapM ofNodes).map mergeAll := by
  induction documents with
  | nil => rfl
  | cons nodes documents ih =>
      rw [List.flatten_cons, ofNodes_append, ih, List.mapM_cons]
      cases ofNodes nodes with
      | error e => rfl
      | ok m =>
          cases documents.mapM ofNodes with
          | error e => rfl
          | ok manifests => exact congrArg Except.ok (mergeAll_cons m manifests).symm

theorem ofNodes_cons (node : Node) (nodes : List Node) :
    ofNodes (node :: nodes) = do
      let m ← ofNodes [node]
      let m' ← ofNodes nodes
      return m.merge m' :=
  ofNodes_append [node] nodes

theorem exists_ofNodes_cons_iff {node : Node} {nodes : List Node} :
    (∃ m, ofNodes (node :: nodes) = .ok m) ↔
      (∃ m, ofNodes [node] = .ok m) ∧ ∃ m, ofNodes nodes = .ok m := by
  rw [ofNodes_cons]
  simp only [bind_eq_ok_iff]
  constructor
  · intro h
    obtain ⟨-, first, hfirst, rest, hrest, -⟩ := h
    exact ⟨⟨first, hfirst⟩, rest, hrest⟩
  · intro h
    obtain ⟨⟨first, hfirst⟩, rest, hrest⟩ := h
    exact ⟨first.merge rest, first, hfirst, rest, hrest, rfl⟩

theorem ofNodes_cons_eq_error_iff {node : Node} {nodes : List Node}
    {e : CompileError} :
    ofNodes (node :: nodes) = .error e ↔
      ofNodes [node] = .error e ∨
        (∃ m, ofNodes [node] = .ok m) ∧ ofNodes nodes = .error e := by
  rw [ofNodes_cons, bind_eq_error_iff]
  apply or_congr Iff.rfl
  constructor
  · intro h
    obtain ⟨m, hnode, h⟩ := h
    rcases bind_eq_error_iff.mp h with hnodes | ⟨m', -, hmerged⟩
    · exact ⟨⟨m, hnode⟩, hnodes⟩
    · cases hmerged
  · intro h
    obtain ⟨⟨m, hnode⟩, hnodes⟩ := h
    exact ⟨m, hnode, bind_eq_error_iff.mpr (Or.inl hnodes)⟩

/-- A document fails with the defect of its first node that cannot be read. -/
theorem ofNodes_eq_error_iff {nodes : List Node} {e : CompileError} :
    ofNodes nodes = .error e ↔
      ∃ front node back, nodes = front ++ node :: back ∧
        (∃ m, ofNodes front = .ok m) ∧ ofNodes [node] = .error e := by
  induction nodes with
  | nil =>
      have hempty : ofNodes [] = .ok empty := rfl
      simp [hempty]
  | cons node nodes ih =>
      rw [ofNodes_cons_eq_error_iff, ih]
      constructor
      · intro h
        rcases h with hnode | ⟨hnode, front, bad, back, rfl, hfront, hbad⟩
        · exact ⟨[], node, nodes, rfl, ⟨empty, rfl⟩, hnode⟩
        · exact ⟨node :: front, bad, back, rfl,
            exists_ofNodes_cons_iff.mpr ⟨hnode, hfront⟩, hbad⟩
      · intro h
        obtain ⟨front, bad, back, hnodes, hfront, hbad⟩ := h
        cases front with
        | nil =>
            obtain ⟨rfl, rfl⟩ := List.cons.inj hnodes
            exact Or.inl hbad
        | cons first front =>
            obtain ⟨rfl, rfl⟩ := List.cons.inj hnodes
            obtain ⟨hnode, hfront⟩ := exists_ofNodes_cons_iff.mp hfront
            exact Or.inr ⟨hnode, front, bad, back, rfl, hfront, hbad⟩

/-- Cutting a document in two, or in many, and merging what the parts are read
into changes nothing, neither the manifest nor the defect that is reported, and
merging is associative with the empty manifest as its neutral element. -/
theorem ofNodes_append_merge_laws :
    (∀ first second : List Node,
      ofNodes (first ++ second) = do
        let m ← ofNodes first
        let m' ← ofNodes second
        return m.merge m') ∧
    (∀ documents : List (List Node),
      ofNodes documents.flatten = (documents.mapM ofNodes).map mergeAll) ∧
    (∀ (nodes : List Node) (e : CompileError), ofNodes nodes = .error e ↔
      ∃ front node back, nodes = front ++ node :: back ∧
        (∃ m, ofNodes front = .ok m) ∧ ofNodes [node] = .error e) ∧
    (∀ a b c : Manifest, (a.merge b).merge c = a.merge (b.merge c)) ∧
    ∀ m : Manifest, empty.merge m = m ∧ m.merge empty = m :=
  ⟨ofNodes_append, ofNodes_flatten, fun _ _ => ofNodes_eq_error_iff,
    merge_assoc, fun m => ⟨empty_merge m, merge_empty m⟩⟩

end Manifest

end RolePolicy
