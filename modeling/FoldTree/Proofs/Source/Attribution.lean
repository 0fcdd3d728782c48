import FoldTree.Proofs.Source.Constructs
import FoldTree.Proofs.Subtrees

/-! Which words a region has as its own. Between a word and the construct whose region has it, no
other construct makes a region. So the regions of a program come in the order of the constructs that
make them, each inside of those that its construct is inside of, and all words of the program are
the words of some region.
-/

namespace FoldTree.Source

/-! ### Own words -/

/-- The words below a construct that no region stands between. -/
def ownWords (below : List (Rose Construct)) : List String :=
  (Rose.lineagesAll [] below).flatMap fun (construct, above) =>
    if above.any Construct.makesRegion then [] else construct.words

/-- The terms of words, in order. -/
def termsOf (words : List String) : List String :=
  words.flatMap fun word => Term.splitName word.toList

/-- Own words of several constructs are those of one and then those of the next. -/
theorem ownWords_append (first second : List (Rose Construct))
    : ownWords (first ++ second) = ownWords first ++ ownWords second := by
  simp only [ownWords, Rose.lineagesAll_eq_flatMap, List.flatMap_append]

/-- A construct has its own words in front, and those below it unless it makes a region. -/
theorem ownWords_node (construct : Construct) (below : List (Rose Construct))
    : ownWords [.node construct below]
      = construct.words ++ if construct.makesRegion then [] else ownWords below := by
  simp only [ownWords, Rose.lineagesAll, List.append_nil, Rose.lineages, List.flatMap_cons,
    List.any_nil, Bool.false_eq_true, if_false]
  congr 1
  rw [Rose.lineagesAll_above, List.flatMap_map]
  cases makes : construct.makesRegion <;> simp [makes]

variable {source : List Char} {inClass : Bool}

mutual

/-- The terms that a construct gives the region around it are those of its own words. -/
theorem gather_terms (t : Rose Construct) {inClass : Bool} {contents : Contents}
    (gathered : gather source inClass t = some contents)
    : contents.terms = termsOf (ownWords [t]) := by
  match t with
  | .node construct below =>
      rw [ownWords_node]
      rcases gather_cases source inClass gathered with
        ⟨makes, _, _, _, -, -, -, rfl⟩ | ⟨makes, inside, inner, rfl⟩
      · simp [construct.words_of_makesRegion makes, makes, termsOf]
      · rw [makes, Contents.terms_append, gatherAll_terms below inner, termsOf, termsOf,
          List.flatMap_append]
        rfl

/-- The terms that constructs give the region around them are those of their own words. -/
theorem gatherAll_terms (trees : List (Rose Construct)) {inClass : Bool} {contents : Contents}
    (gathered : gatherAll source inClass trees = some contents)
    : contents.terms = termsOf (ownWords trees) := by
  match trees with
  | [] =>
      rw [gatherAll] at gathered
      cases gathered
      rfl
  | t :: rest =>
      obtain ⟨first, later, one, others, rfl⟩ := gatherAll_cases source inClass gathered
      rw [← List.singleton_append, ownWords_append, Contents.terms_append, gather_terms t one,
        gatherAll_terms rest others, termsOf, termsOf, termsOf, List.flatMap_append]

end

/-! ### Regions in their places -/

/-- Whether the nearest region around a place is that of a class, given the parts that the place is
inside of, the innermost first.
-/
def isInClass (above : List (Rose Construct)) : Bool :=
  (above.find? (·.value.makesRegion)).any (·.value.isClass)

/-- The region of a construct: its range, its kind where it stands, its name, and the terms of the
words below it that no other region stands between.
-/
def regionOf (source : List Char) (above : List (Rose Construct)) (part : Rose Construct)
    : Region :=
  let span := (part.value.span? source).getD (0, 0)
  ⟨0, span.1, span.2, (part.value.kind (isInClass above)).word, part.value.name?,
    termsOf (ownWords part.children)⟩

/-- The regions of a part and of all parts that it is inside of, the innermost first. -/
def regionsAlong (source : List Char) : List (Rose Construct) → List Region
  | [] => []
  | part :: above =>
    if part.value.makesRegion then regionOf source above part :: regionsAlong source above
    else regionsAlong source above

/-- The regions that parts make, in the order of these, each with the regions around it. -/
def placedRegions (source : List Char) (parts : List (Rose Construct × List (Rose Construct)))
    : List (List Region) :=
  (parts.filter (·.1.value.makesRegion)).map fun (part, above) =>
    regionsAlong source (part :: above)

/-- The regions of a skeleton in its pre-order, each with the regions around it. -/
def regionLineages (parts : List (Part × List Part)) : List (List Region) :=
  parts.map fun (part, above) => (part :: above).map (·.region)

/-- A part has its regions in front of those of the parts that follow, if it makes one. -/
theorem placedRegions_cons (part : Rose Construct) (above : List (Rose Construct))
    (rest : List (Rose Construct × List (Rose Construct)))
    : placedRegions source ((part, above) :: rest)
      = if part.value.makesRegion then
          regionsAlong source (part :: above) :: placedRegions source rest
        else placedRegions source rest := by
  rw [placedRegions, List.filter_cons]
  split <;> rfl

mutual

/-- What a construct gives has its regions where the parts of the construct are that make them, when
so have the regions around it. Witness: mutual induction over the construct.
-/
theorem gather_regions (t : Rose Construct) {inClass : Bool} {contents : Contents}
    (gathered : gather source inClass t = some contents) {above : List (Rose Construct)}
    {around : List Part} (nearest : isInClass above = inClass)
    (same : around.map (·.region) = regionsAlong source above)
    : regionLineages (Rose.lineagesAll around contents.below)
      = placedRegions source (t.partTree.lineages above) := by
  match t with
  | .node construct below =>
      rw [Rose.partTree, Rose.lineages]
      rcases gather_cases source inClass gathered with
        ⟨makes, span, doc, inside, placed, written, inner, rfl⟩ | ⟨makes, inside, inner, rfl⟩
      · -- the region of the construct comes first, and is the innermost around those below it
        have here : regionOf source above (.node construct below)
            = ⟨0, span.1, span.2, (construct.kind inClass).word, construct.name?,
                inside.terms⟩ := by
          simp only [regionOf, Rose.value, Rose.children, placed, Option.getD_some, nearest,
            gatherAll_terms below inner]
        have along : regionsAlong source (.node construct below :: above)
            = regionOf source above (.node construct below) :: regionsAlong source above := by
          rw [regionsAlong, if_pos (by exact makes)]
        have nearest' : isInClass (.node construct below :: above) = construct.isClass := by
          simp [isInClass, Rose.value, makes]
        have same' : ((⟨regionOf source above (.node construct below), doc⟩ : Part) :: around).map
              (·.region)
            = regionsAlong source (.node construct below :: above) := by
          rw [List.map_cons, same, along]
        rw [placedRegions_cons, if_pos (by exact makes), along,
          ← gatherAll_regions below inner nearest' same', here]
        simp [regionLineages, Rose.lineagesAll, Rose.lineages, same]
      · -- without a region of its own, the construct leaves those below it to the one around
        have along : regionsAlong source (.node construct below :: above)
            = regionsAlong source above := by
          rw [regionsAlong, if_neg (by simp [Rose.value, makes])]
        have nearest' : isInClass (.node construct below :: above) = inClass := by
          rw [← nearest, isInClass, List.find?_cons_of_neg (by simp [Rose.value, makes])]
          rfl
        rw [placedRegions_cons, if_neg (by simp [Rose.value, makes]),
          ← gatherAll_regions below inner nearest' (same.trans along.symm)]
        rfl

/-- The same holds of several constructs in the same place. -/
theorem gatherAll_regions (trees : List (Rose Construct)) {inClass : Bool} {contents : Contents}
    (gathered : gatherAll source inClass trees = some contents) {above : List (Rose Construct)}
    {around : List Part} (nearest : isInClass above = inClass)
    (same : around.map (·.region) = regionsAlong source above)
    : regionLineages (Rose.lineagesAll around contents.below)
      = placedRegions source (Rose.lineagesAll above (Rose.partTreeAll trees)) := by
  match trees with
  | [] =>
      rw [gatherAll] at gathered
      cases gathered
      rfl
  | t :: rest =>
      obtain ⟨first, later, one, others, rfl⟩ := gatherAll_cases source inClass gathered
      have front := gather_regions t one nearest same
      have back := gatherAll_regions rest others nearest same
      simp only [regionLineages, placedRegions] at front back ⊢
      rw [Contents.below_append, Rose.partTreeAll, Rose.lineagesAll, Rose.lineagesAll_eq_flatMap,
        List.flatMap_append, ← Rose.lineagesAll_eq_flatMap, ← Rose.lineagesAll_eq_flatMap,
        List.map_append, List.filter_append, List.map_append, front, back]

end

/-! ### Places and doc texts -/

/-- A construct has its region, if it makes one, and the doc text of this in lines of the text. -/
def Construct.Placed (source : List Char) (construct : Construct) : Prop :=
  construct.makesRegion = true
    → (construct.span? source).isSome = true ∧ (construct.doc? source).isSome = true

mutual

/-- A construct gives something just where all regions have their places in the text. -/
theorem gather_isSome_iff (t : Rose Construct) (inClass : Bool)
    : (gather source inClass t).isSome = true
      ↔ ∀ construct ∈ t.preorder, construct.Placed source := by
  match t with
  | .node construct below =>
      rw [Rose.preorder, List.forall_mem_cons, gather]
      cases makes : construct.makesRegion with
      | false =>
          have inner := gatherAll_isSome_iff below inClass
          simp [Construct.Placed, makes, inner]
      | true =>
          have inner := gatherAll_isSome_iff below construct.isClass
          rw [← inner]
          cases lies : construct.span? source <;> cases written : construct.doc? source <;>
            cases gatherAll source construct.isClass below
          all_goals simp [Construct.Placed, makes, lies, written]

/-- Several constructs give something under the same condition. -/
theorem gatherAll_isSome_iff (trees : List (Rose Construct)) (inClass : Bool)
    : (gatherAll source inClass trees).isSome = true
      ↔ ∀ construct ∈ Rose.preorderAll trees, construct.Placed source := by
  match trees with
  | [] => simp [gatherAll, Rose.preorderAll]
  | t :: rest =>
      rw [Rose.preorderAll, List.forall_mem_append, gatherAll, ← gather_isSome_iff t inClass,
        ← gatherAll_isSome_iff rest inClass]
      cases gather source inClass t <;> cases gatherAll source inClass rest <;> simp

end

mutual

/-- The regions that a construct gives have the doc texts of the constructs that make them. -/
theorem gather_docs (t : Rose Construct) {inClass : Bool} {contents : Contents}
    (gathered : gather source inClass t = some contents)
    : (Rose.preorderAll contents.below).map (·.doc)
      = (t.preorder.filter Construct.makesRegion).map fun construct =>
          (construct.doc? source).join := by
  match t with
  | .node construct below =>
      rw [Rose.preorder, List.filter_cons]
      rcases gather_cases source inClass gathered with
        ⟨makes, span, doc, inside, -, written, inner, rfl⟩ | ⟨makes, inside, inner, rfl⟩
      · have docs := gatherAll_docs below inner
        simpa [makes, written, Rose.preorderAll, Rose.preorder] using docs
      · have docs := gatherAll_docs below inner
        simpa [makes] using docs

/-- The same holds of several constructs. -/
theorem gatherAll_docs (trees : List (Rose Construct)) {inClass : Bool} {contents : Contents}
    (gathered : gatherAll source inClass trees = some contents)
    : (Rose.preorderAll contents.below).map (·.doc)
      = ((Rose.preorderAll trees).filter Construct.makesRegion).map fun construct =>
          (construct.doc? source).join := by
  match trees with
  | [] =>
      rw [gatherAll] at gathered
      cases gathered
      rfl
  | t :: rest =>
      obtain ⟨first, later, one, others, rfl⟩ := gatherAll_cases source inClass gathered
      rw [Contents.below_append, Rose.preorderAll_append, List.map_append, gather_docs t one,
        gatherAll_docs rest others, Rose.preorderAll, List.filter_append, List.map_append]

end

/-! ### All words -/

/-- All terms of some regions in pre-order. -/
def allTerms (parts : List (Rose Part)) : List String :=
  (Rose.preorderAll parts).flatMap (·.region.terms)

/-- Terms of regions come one tree after the other. -/
theorem allTerms_append (first second : List (Rose Part))
    : allTerms (first ++ second) = allTerms first ++ allTerms second := by
  simp only [allTerms, Rose.preorderAll_append, List.flatMap_append]

mutual

/-- No word of a construct is lost or counted twice: each gives its terms to one region or to the
one around.
-/
theorem gather_count (t : Rose Construct) {inClass : Bool} {contents : Contents}
    (gathered : gather source inClass t = some contents) (term : String)
    : contents.terms.count term + (allTerms contents.below).count term
      = (termsOf (t.preorder.flatMap Construct.words)).count term := by
  match t with
  | .node construct below =>
      rw [Rose.preorder, List.flatMap_cons, termsOf, List.flatMap_append, List.count_append]
      rcases gather_cases source inClass gathered with
        ⟨makes, _, _, inside, -, -, inner, rfl⟩ | ⟨makes, inside, inner, rfl⟩
      · have count := gatherAll_count below inner term
        simpa [allTerms, termsOf, Rose.preorderAll, Rose.preorder,
          Construct.words_of_makesRegion makes] using count
      · have count := gatherAll_count below inner term
        rw [Contents.terms_append, Contents.below_append, List.count_append, Nat.add_assoc]
        exact congrArg _ count

/-- The same holds of several constructs. -/
theorem gatherAll_count (trees : List (Rose Construct)) {inClass : Bool} {contents : Contents}
    (gathered : gatherAll source inClass trees = some contents) (term : String)
    : contents.terms.count term + (allTerms contents.below).count term
      = (termsOf ((Rose.preorderAll trees).flatMap Construct.words)).count term := by
  match trees with
  | [] =>
      rw [gatherAll] at gathered
      cases gathered
      rfl
  | t :: rest =>
      obtain ⟨first, later, one, others, rfl⟩ := gatherAll_cases source inClass gathered
      have front := gather_count t one term
      have back := gatherAll_count rest others term
      rw [Rose.preorderAll, List.flatMap_append, termsOf, List.flatMap_append, List.count_append,
        Contents.terms_append, Contents.below_append, allTerms_append, List.count_append,
        List.count_append]
      rw [termsOf] at front back
      omega

end

mutual

/-- The words of a statement in the order in which they count, whatever regions it makes. -/
def Stmt.words : Stmt → List String
  | .evaluate _ value => value.words
  | .simple _ parts => Expr.wordsOfAll parts
  | .importing _ words => words
  | .define _ _ name decorators header body trailer =>
    Expr.wordsOfAll decorators ++ name :: Expr.wordsOfAll header ++ wordsOfAll body
      ++ Expr.wordsOfAll trailer
  | .block _ _ clauses => clauseWords clauses

/-- The words of several statements. -/
def Stmt.wordsOfAll : List Stmt → List String
  | [] => []
  | statement :: rest => statement.words ++ wordsOfAll rest

/-- The words of clauses. -/
def Stmt.clauseWords : List Clause → List String
  | [] => []
  | .mk header body :: rest => Expr.wordsOfAll header ++ wordsOfAll body ++ clauseWords rest

end

/-- The words of some constructs, in order. -/
def constructWords (trees : List (Rose Construct)) : List String :=
  (Rose.preorderAll trees).flatMap Construct.words

/-- Words come one tree after the other. -/
theorem constructWords_append (first second : List (Rose Construct))
    : constructWords (first ++ second) = constructWords first ++ constructWords second := by
  simp only [constructWords, Rose.preorderAll_append, List.flatMap_append]

/-- A construct has its own words before those below it. -/
theorem constructWords_node (construct : Construct) (below : List (Rose Construct))
    : constructWords [.node construct below] = construct.words ++ constructWords below := by
  simp only [constructWords, Rose.preorderAll, Rose.preorder, List.append_nil, List.flatMap_cons]

/-- The words of the first construct come before those of the rest. -/
theorem constructWords_cons (t : Rose Construct) (rest : List (Rose Construct))
    : constructWords (t :: rest) = constructWords [t] ++ constructWords rest := by
  rw [← constructWords_append, List.singleton_append]

/-- A phrase has no words but those below it. -/
theorem constructWords_phrase (below : List (Rose Construct))
    : constructWords [.node .phrase below] = constructWords below := constructWords_node _ _

/-- A word is its only word. -/
theorem constructWords_word (word : String) : constructWords [wordConstruct word] = [word] := rfl

mutual

/-- The constructs of an expression have its words. -/
theorem constructWords_expr (expr : Expr) : constructWords [expr.constructs] = expr.words := by
  match expr with
  | .name word => rfl
  | .text value => rfl
  | .attribute owner word =>
      rw [Expr.constructs, Expr.words, constructWords_phrase, constructWords_cons,
        constructWords_expr owner, constructWords_word]
  | .subscript owner index =>
      rw [Expr.constructs, Expr.words, constructWords_phrase, constructWords_cons,
        constructWords_expr owner, constructWords_expr index]
  | .starred value =>
      rw [Expr.constructs, Expr.words, constructWords_phrase, constructWords_expr value]
  | .tuple items | .list items | .compound items =>
      rw [Expr.constructs, Expr.words, constructWords_phrase, constructWords_exprs items]
  | .labelled word parts =>
      rw [Expr.constructs, Expr.words, constructWords_phrase, constructWords_cons,
        constructWords_word, constructWords_exprs parts, List.singleton_append]

/-- The constructs of several expressions have their words. -/
theorem constructWords_exprs (parts : List Expr)
    : constructWords (Expr.constructsOfAll parts) = Expr.wordsOfAll parts := by
  match parts with
  | [] => rfl
  | part :: rest =>
      rw [Expr.constructsOfAll, Expr.wordsOfAll, constructWords_cons, constructWords_expr part,
        constructWords_exprs rest]

end

mutual

/-- The constructs of a statement have its words. -/
theorem constructWords_stmt (statement : Stmt)
    : constructWords [statement.constructs] = statement.words := by
  match statement with
  | .evaluate _ value => rw [Stmt.constructs, Stmt.words, constructWords_expr]
  | .simple _ parts =>
      rw [Stmt.constructs, Stmt.words, constructWords_phrase, constructWords_exprs]
  | .importing _ words =>
      rw [Stmt.constructs, Stmt.words, constructWords_phrase]
      induction words with
      | nil => rfl
      | cons word rest ih =>
          rw [List.map_cons, constructWords_cons, constructWords_word, ih, List.singleton_append]
  | .define extent sort name decorators header body trailer =>
      rw [Stmt.constructs, Stmt.words, constructWords_phrase, constructWords_append,
        constructWords_node, constructWords_append, constructWords_append, constructWords_cons,
        constructWords_word]
      simp only [constructWords_exprs, constructWords_stmts body, Construct.words,
        List.nil_append, List.append_assoc, List.cons_append]
  | .block extent kind clauses =>
      rw [Stmt.constructs, Stmt.words, constructWords_node, constructWords_clauses clauses]
      rfl

/-- The constructs of several statements have their words. -/
theorem constructWords_stmts (statements : List Stmt)
    : constructWords (Stmt.constructsOfAll statements) = Stmt.wordsOfAll statements := by
  match statements with
  | [] => rfl
  | statement :: rest =>
      rw [Stmt.constructsOfAll, Stmt.wordsOfAll, constructWords_cons,
        constructWords_stmt statement, constructWords_stmts rest]

/-- The constructs of clauses have their words. -/
theorem constructWords_clauses (clauses : List Clause)
    : constructWords (Stmt.clauseConstructs clauses) = Stmt.clauseWords clauses := by
  match clauses with
  | [] => rfl
  | .mk header body :: rest =>
      rw [Stmt.clauseConstructs, Stmt.clauseWords, constructWords_append, constructWords_append,
        constructWords_exprs, constructWords_stmts body, constructWords_clauses rest]

end

/-- Several statements have the words of one stretch and then those of the next, by induction. -/
theorem Stmt.wordsOfAll_append (first second : List Stmt)
    : wordsOfAll (first ++ second) = wordsOfAll first ++ wordsOfAll second := by
  induction first with
  | nil => rfl
  | cons statement rest ih => rw [List.cons_append, wordsOfAll, wordsOfAll, ih, List.append_assoc]

/-- The constructs of a program have the words of its statements, in their order. -/
theorem words_moduleConstructs (program : List Stmt)
    : (moduleConstructs program).preorder.flatMap Construct.words = Stmt.wordsOfAll program := by
  have run (run : List Stmt) : constructWords (runConstructs run) = Stmt.wordsOfAll run := by
    cases run with
    | nil => rfl
    | cons first rest =>
        rw [runConstructs, List.head?_cons, List.getLast?_cons]
        dsimp only
        split
        · rw [constructWords_node, constructWords_stmts]
          rfl
        · exact constructWords_stmts (first :: rest)
  have all (runs : List (List Stmt))
      : constructWords (runs.flatMap runConstructs) = Stmt.wordsOfAll runs.flatten := by
    induction runs with
    | nil => rfl
    | cons first rest ih =>
        rw [List.flatMap_cons, constructWords_append, run, ih, List.flatten_cons,
          Stmt.wordsOfAll_append]
  have flat : (importRuns program).flatten = program := List.flatten_splitBy _ _
  have node := constructWords_node (.module (docText? program))
    ((importRuns program).flatMap runConstructs)
  rw [all, flat] at node
  rw [moduleConstructs]
  simpa [constructWords, Rose.preorderAll, Construct.words] using node

end FoldTree.Source
