import Regen.Proofs.Forms

/-! # What is read starts with a token

The data that tokens denote consist of these tokens, apart from the lines of closing parentheses. Every part of a body
that is read, a form or an expression, starts with a token and stands on its line, and what is wrong with a body is
reported on the line of a token.
-/

namespace Regen

namespace Token

/-- What a token says: its lexeme, and its line unless it closes a list. -/
def essence (token : Token) : Lexeme × Option Int :=
  (token.lexeme, if token.lexeme = .closing then none else some token.line)

/-- A token that opens a list or denotes an atom is known by what it says. -/
theorem mem_of_essence_mem {token : Token} {tokens : List Token} (told : token.essence ∈ tokens.map essence)
    (notClosing : token.lexeme ≠ .closing) : token ∈ tokens := by
  obtain ⟨other, member, same⟩ := List.mem_map.mp told
  obtain ⟨lexeme, line⟩ := token
  obtain ⟨lexeme', line'⟩ := other
  simp only [essence, Prod.mk.injEq] at same
  obtain ⟨rfl, lines⟩ := same
  rw [if_neg notClosing, if_neg notClosing] at lines
  cases lines
  exact member

end Token

namespace Nesting

variable {nesting next : Nesting} {token : Token}

/-- The tokens of the data so far and of the lists that are still open, outermost first. -/
def flatten (nesting : Nesting) : List Token :=
  nesting.data.reverse.flatMap Datum.flatten ++
    nesting.pending.reverse.flatMap fun inner => ⟨.opening, inner.line⟩ :: inner.items.reverse.flatMap Datum.flatten

theorem flatten_add (nesting : Nesting) (datum : Datum) :
    (nesting.add datum).flatten = nesting.flatten ++ datum.flatten := by
  obtain ⟨data, pending⟩ := nesting
  cases pending with
  | nil => simp [add, flatten]
  | cons inner outer => simp [add, flatten]

/-- Reading a token adds it. -/
theorem essence_step (success : nesting.step token = .ok next) :
    next.flatten.map Token.essence = nesting.flatten.map Token.essence ++ [token.essence] := by
  obtain ⟨lexeme, line⟩ := token
  cases lexeme with
  | opening =>
    cases success
    simp [flatten]
  | closing =>
    obtain ⟨data, pending⟩ := nesting
    cases pending with
    | nil => cases success
    | cons inner outer =>
      cases success
      rw [flatten_add]
      simp [flatten, Datum.flatten, Datum.flattenAll_eq_flatMap, Token.essence]
  | string chars =>
    cases success
    rw [flatten_add, List.map_append]
    rfl
  | integer n =>
    cases success
    rw [flatten_add, List.map_append]
    rfl
  | symbol name =>
    cases success
    rw [flatten_add, List.map_append]
    rfl

/-- Reading tokens fails on one of them that closes no list, or adds them all. -/
theorem foldlM_essence (tokens : List Token) (nesting : Nesting) :
    Ends (fun failure => ∃ token ∈ tokens, failure = .onLine .unexpectedClose (some token.line))
      (fun next => next.flatten.map Token.essence = nesting.flatten.map Token.essence ++ tokens.map Token.essence)
      (tokens.foldlM step nesting) := by
  induction tokens generalizing nesting with
  | nil => exact (List.append_nil _).symm
  | cons token rest ih =>
    rw [List.foldlM_cons]
    cases stepped : nesting.step token with
    | error failure =>
      unfold step at stepped
      split at stepped
      · cases stepped
      · split at stepped
        · cases stepped
          exact ⟨token, List.mem_cons_self .., rfl⟩
        · cases stepped
      · cases stepped
      · cases stepped
      · cases stepped
    | ok middle =>
      refine (ih middle).imp ?_ ?_
      · rintro failure ⟨other, member, rfl⟩
        exact ⟨other, List.mem_cons_of_mem _ member, rfl⟩
      · intro next added
        rw [added, essence_step stepped, List.map_cons, List.append_assoc, List.singleton_append]

end Nesting

/-- A fault on the line of one of the tokens. -/
def Failure.OnToken (tokens : List Token) (failure : Failure) : Prop :=
  ∃ token ∈ tokens, ∃ fault, failure = .onLine fault (some token.line)

/-- A fault on the line of one of the tokens, which starts a datum. -/
def Failure.AtDatum (tokens : List Token) (failure : Failure) : Prop :=
  ∃ token ∈ tokens, token.lexeme ≠ .closing ∧ ∃ fault, failure = .onLine fault (some token.line)

/-- The data that tokens denote consist of these tokens. -/
theorem Datum.ofTokens_essence (tokens : List Token) :
    Ends (Failure.OnToken tokens)
      (fun data => (flattenAll data).map Token.essence = tokens.map Token.essence) (ofTokens tokens) := by
  have pass := Nesting.foldlM_essence tokens ⟨[], []⟩
  refine (pass.imp ?_ fun _ => id).bind fun nesting added => ?_
  · rintro failure ⟨token, member, rfl⟩
    exact ⟨token, member, _, rfl⟩
  · replace added : nesting.flatten.map Token.essence = tokens.map Token.essence := added
    unfold Nesting.finish
    split
    · next closed =>
      change (flattenAll nesting.data.reverse).map _ = _
      rw [← added, flattenAll_eq_flatMap, Nesting.flatten, closed]
      simp
    · next inner outer pending =>
      refine ⟨⟨.opening, inner.line⟩, ?_, _, rfl⟩
      refine Token.mem_of_essence_mem ?_ (by simp)
      rw [← added]
      refine List.mem_map_of_mem ?_
      simp [Nesting.flatten, pending]

namespace Node

mutual

/-- A node and all nodes inside of it, in the order in which they are written. -/
def parts : Node → List Node
  | literal value line => [literal value line]
  | reference name line => [reference name line]
  | insert arguments line => insert arguments line :: partsAll arguments
  | newline line => [newline line]
  | loop counter count body line => loop counter count body line :: (count.parts ++ partsAll body)
  | call function arguments line => call function arguments line :: partsAll arguments

def partsAll : List Node → List Node
  | [] => []
  | node :: rest => node.parts ++ partsAll rest

end

theorem partsAll_eq_flatMap (nodes : List Node) : partsAll nodes = nodes.flatMap parts := by
  induction nodes with
  | nil => rfl
  | cons node rest ih => rw [partsAll, ih, List.flatMap_cons]

mutual

theorem parts_relocate (move : Option Int → Option Int) (node : Node) :
    (node.relocate move).parts = node.parts.map (relocate move) := by
  match node with
  | literal _ _ | reference _ _ | newline _ => simp [parts]
  | insert arguments line | call function arguments line =>
    have inside := partsAll_relocate move arguments
    simp [parts, inside]
  | loop counter count body line =>
    have inCount := parts_relocate move count
    have inBody := partsAll_relocate move body
    simp [parts, inCount, inBody]

theorem partsAll_relocate (move : Option Int → Option Int) (nodes : List Node) :
    partsAll (nodes.map (relocate move)) = (partsAll nodes).map (relocate move) := by
  match nodes with
  | [] => rfl
  | node :: rest =>
    rw [List.map_cons, partsAll, partsAll, List.map_append, parts_relocate move node, partsAll_relocate move rest]

end

/-- A token is the first one of a node: the parenthesis that opens a form, or all of an expression. -/
inductive Begins : Token → Node → Prop
  | form {node : Node} {line : Int} (isForm : node.isExpression = false) (onLine : node.line = some line) :
      Begins ⟨.opening, line⟩ node
  | reference (name : Text) (line : Int) : Begins ⟨.symbol name, line⟩ (.reference name (some line))
  | text (chars : Text) (line : Int) : Begins ⟨.string chars, line⟩ (.literal (.text chars) (some line))
  | integer (n line : Int) : Begins ⟨.integer n, line⟩ (.literal (.int n) (some line))

theorem Begins.notClosing {token : Token} {node : Node} (begins : Begins token node) : token.lexeme ≠ .closing := by
  cases begins <;> simp

theorem Begins.onLine {token : Token} {node : Node} (begins : Begins token node) : node.line = some token.line := by
  cases begins with
  | form isForm onLine => exact onLine
  | reference | text | integer => rfl

/-- Every node that is part of some nodes starts with one of the tokens. -/
def StartWithin (tokens : List Token) (nodes : List Node) : Prop := ∀ node ∈ nodes, ∃ token ∈ tokens, Begins token node

variable {tokens more : List Token} {nodes others : List Node}

theorem StartWithin.append (start : StartWithin tokens nodes) (also : StartWithin tokens others) :
    StartWithin tokens (nodes ++ others) := by
  intro node member
  rcases List.mem_append.mp member with member | member
  · exact start node member
  · exact also node member

end Node

/-- What is read within some tokens is read within more of them. -/
theorem Ends.within {α : Type} {nodes : α → List Node} {tokens more : List Token} {result : Except Failure α}
    (ends : Ends (Failure.AtDatum tokens) (fun a => Node.StartWithin tokens (nodes a)) result)
    (subset : tokens ⊆ more) : Ends (Failure.AtDatum more) (fun a => Node.StartWithin more (nodes a)) result := by
  refine ends.imp ?_ ?_
  · rintro failure ⟨token, member, starts⟩
    exact ⟨token, subset member, starts⟩
  · intro a start node member
    obtain ⟨token, inTokens, begins⟩ := start node member
    exact ⟨token, subset inTokens, begins⟩

namespace Node

/-- An argument starts with the token of its datum. -/
theorem ofArgument_parts (datum : Datum) :
    Ends (Failure.AtDatum datum.flatten) (fun node => StartWithin datum.flatten node.parts) (ofArgument datum) := by
  cases datum with
  | list items line => exact ⟨⟨.opening, line⟩, by simp [Datum.flatten], by simp, _, rfl⟩
  | atom atom line =>
    have only {node : Node} (alone : node.parts = [node]) (begins : Begins ⟨atom.lexeme, line⟩ node) :
        StartWithin (Datum.atom atom line).flatten node.parts := by
      rw [alone]
      intro part member
      obtain rfl := List.mem_singleton.mp member
      exact ⟨_, by simp [Datum.flatten], begins⟩
    cases atom with
    | symbol name => exact only rfl (.reference name line)
    | string chars => exact only rfl (.text chars line)
    | integer n => exact only rfl (.integer n line)

theorem mapM_ofArgument_parts (data : List Datum) :
    Ends (Failure.AtDatum (Datum.flattenAll data)) (fun nodes => StartWithin (Datum.flattenAll data) (partsAll nodes))
      (data.mapM ofArgument) := by
  have each : ∀ datum ∈ data, Ends (Failure.AtDatum (Datum.flattenAll data))
      (fun node => StartWithin (Datum.flattenAll data) node.parts) (ofArgument datum) := by
    intro datum member
    refine (ofArgument_parts datum).within fun token inside => ?_
    rw [Datum.flattenAll_eq_flatMap]
    exact List.mem_flatMap_of_mem member inside
  refine (Ends.mapM data each).imp (fun _ => id) fun nodes start => ?_
  rw [partsAll_eq_flatMap]
  intro part inside
  obtain ⟨node, member, inside⟩ := List.mem_flatMap.mp inside
  exact start node member part inside

mutual

/-- Every part of a form starts with a token of its datum. -/
theorem ofDatum_parts (datum : Datum) :
    Ends (Failure.AtDatum datum.flatten) (fun node => StartWithin datum.flatten node.parts) (ofDatum datum) := by
  match datum with
  | .atom found line =>
    rw [ofDatum]
    exact ⟨⟨found.lexeme, line⟩, by simp [Datum.flatten], by cases found <;> simp [Atom.lexeme], _, rfl⟩
  | .list [] line =>
    rw [ofDatum]
    exact ⟨⟨.opening, line⟩, by simp [Datum.flatten], by simp, _, rfl⟩
  | .list (head :: rest) line =>
    have opens : ⟨.opening, line⟩ ∈ (Datum.list (head :: rest) line).flatten := by simp [Datum.flatten]
    have inside : Datum.flattenAll rest ⊆ (Datum.list (head :: rest) line).flatten := by
      intro token member
      simp [Datum.flatten, Datum.flattenAll, member]
    have refused (fault : Fault) :
        Failure.AtDatum (Datum.list (head :: rest) line).flatten (.onLine fault (some line)) :=
      ⟨_, opens, by simp, fault, rfl⟩
    -- the form itself starts with the parenthesis
    have form {node : Node} {others : List Node} (isForm : node.isExpression = false) (onLine : node.line = some line)
        (start : StartWithin (Datum.list (head :: rest) line).flatten others) :
        StartWithin (Datum.list (head :: rest) line).flatten (node :: others) :=
      List.forall_mem_cons.mpr ⟨⟨_, opens, .form isForm onLine⟩, start⟩
    rw [ofDatum.eq_def]
    dsimp only
    cases head.symbol? with
    | none => exact refused _
    | some name =>
      dsimp only
      split_ifs with isInsert noArguments isNewline noArguments isLoop isCall
      · exact refused _
      · exact ((mapM_ofArgument_parts rest).within inside).bind fun arguments start => form rfl rfl start
      · exact form rfl rfl fun _ member => by cases member
      · exact refused _
      · rcases rest with _ | ⟨_ | ⟨_ | ⟨counter, _ | ⟨count, _ | _⟩⟩, bound⟩, body⟩
        case cons.list.cons.cons.nil =>
          dsimp only
          cases counter.symbol? with
          | none => exact refused _
          | some name =>
            have bodyInside := (ofData_parts body).within fun token member =>
              inside (by simp [Datum.flattenAll, member])
            have countInside := (ofArgument_parts count).within fun token member =>
              inside (by simp [Datum.flattenAll, Datum.flatten, member])
            refine bodyInside.bind fun forms bodyStart => ?_
            exact countInside.bind fun bound countStart => form rfl rfl (countStart.append bodyStart)
        all_goals exact refused _
      · rcases rest with _ | ⟨⟨_ | _ | function, _⟩ | _, arguments⟩
        case cons.atom.symbol =>
          have argumentsInside := (mapM_ofArgument_parts arguments).within fun token member =>
            inside (by simp [Datum.flattenAll, member])
          exact argumentsInside.bind fun arguments start => form rfl rfl start
        all_goals exact refused _
      · exact refused _

theorem ofData_parts (data : List Datum) :
    Ends (Failure.AtDatum (Datum.flattenAll data)) (fun nodes => StartWithin (Datum.flattenAll data) (partsAll nodes))
      (ofData data) := by
  match data with
  | [] =>
    rw [ofData]
    exact fun node member => by cases member
  | datum :: rest =>
    have first := (ofDatum_parts datum).within fun token member =>
      show token ∈ Datum.flattenAll (datum :: rest) by simp [Datum.flattenAll, member]
    have others := (ofData_parts rest).within fun token member =>
      show token ∈ Datum.flattenAll (datum :: rest) by simp [Datum.flattenAll, member]
    rw [ofData]
    refine first.bind fun form start => ?_
    exact others.bind fun forms also => start.append also

end

def ofTokens (tokens : List Token) : Except Failure (List Node) := do
  ofData (← Datum.ofTokens tokens)

theorem readBody_eq (text : Text) (line : Int) : readBody text line = Token.scan text line >>= ofTokens := by
  unfold readBody Datum.read
  cases Token.scan text line with
  | ok tokens => rfl
  | error failure => rfl

/-- The forms are the same for tokens on other lines. -/
theorem ofTokens_relocate (move : Int → Int) (tokens : List Token) :
    ofTokens (tokens.map (Token.relocate move)) =
      relabel (Failure.relocate (Option.map move)) (List.map (relocate (Option.map move))) (ofTokens tokens) := by
  rw [ofTokens, Datum.ofTokens_relocate]
  exact relabel_bind _ _ (ofData_relocate move)

/-- Every part of a body starts with one of its tokens. -/
theorem ofTokens_parts (tokens : List Token) :
    Ends (Failure.OnToken tokens) (fun nodes => StartWithin tokens (partsAll nodes)) (ofTokens tokens) := by
  refine (Datum.ofTokens_essence tokens).bind fun data same => ?_
  have known {token : Token} (member : token ∈ Datum.flattenAll data) (notClosing : token.lexeme ≠ .closing) :
      token ∈ tokens := Token.mem_of_essence_mem (same ▸ List.mem_map_of_mem member) notClosing
  refine (ofData_parts data).imp ?_ ?_
  · rintro failure ⟨token, inside, notClosing, fault, rfl⟩
    exact ⟨token, known inside notClosing, fault, rfl⟩
  · intro nodes start node member
    obtain ⟨token, inside, begins⟩ := start node member
    exact ⟨token, known inside begins.notClosing, begins⟩

end Node

end Regen
