import Flowchart.Grammar.Rejection
import Flowchart.Identifier

/-!
# Statements

The grammar of a single line. A statement opens or closes a block, sets
something that the grammar does not look into, or is a chain of nodes with
links between them. A node is an identifier with or without a label, and a
label ends at the first closing delimiter of its shape, even inside quotes. A
link is an arrow, with or without text on it.

Each reader takes what it reads from the front of a text and returns the rest.
A reader of nodes always takes something, which bounds the chain.

## Main definitions

* `Grammar.word`: The token at the front of a text.
* `Grammar.nodeRef`: A node with an optional label.
* `Grammar.link`: An arrow with optional text.
* `Grammar.chain`: What follows the first node of a chain.
* `Grammar.Effect`: What a statement does to the open blocks.
* `Grammar.statement`: The effect of a line.
-/

namespace Flowchart

namespace Grammar

/-- The result of reading: a value, or what is wrong. -/
abbrev Reading (α : Type) := Except Cause α

/-- The words that begin statements the grammar does not look into. -/
def opaqueWords : List String := ["direction", "classDef", "class", "style", "linkStyle", "click"]

/-- The characters of a text up to the first ASCII blank. -/
def word (t : Text) : Text := t.takeWhile (!isAsciiBlank ·)

/-- How the token at the front of a text is named in a message. -/
def describe (t : Text) : Text :=
  match word t with
  | [] => "NEWLINE".toList
  | '"' :: _ => "STR".toList
  | w => w.take 16

/-- An identifier at the front of a text. -/
def identifier? (t : Text) : Option (Text × Text) :=
  match t with
  | c :: r =>
    if Identifier.isStart c then some (c :: r.takeWhile isWordChar, r.dropWhile isWordChar)
    else none
  | [] => none

/-- The name of the token that closes a label. -/
def stopToken : Shape → String
  | .rect => "SQE"
  | .decision => "DIAMOND_STOP"
  | .terminator => "PE"

/-- The body of a label and what follows its closing delimiter. The text begins
    after the opening delimiter. -/
def labelBody? (shape : Shape) (t : Text) : Option (Text × Text) :=
  match t.dropWhile (· != shape.closer) with
  | _ :: rest => some (t.takeWhile (· != shape.closer), rest)
  | [] => none

/-- A bracket that a label without quotes cannot hold. -/
def isBareBracket (c : Char) : Bool :=
  c == '[' || c == ']' || c == '\x7b' || c == '\x7d' || c == '(' || c == ')'

/-- The body of a label is either in quotes and holds none, or is free of quotes
    and brackets. -/
def isLabel (body : Text) : Bool :=
  match body with
  | '"' :: quoted =>
    match Text.dropSuffix? ['"'] quoted with
    | some inner => !inner.contains '"'
    | none => false
  | bare => !bare.any fun c => c == '"' || isBareBracket c

/-- A label of a shape, after its opening delimiter. -/
def label (shape : Shape) (t : Text) : Reading Text :=
  match labelBody? shape t with
  | none => .error (.unexpected .bannedToken (stopToken shape) "NEWLINE".toList)
  | some (body, rest) =>
    if isLabel body then .ok rest
    else .error (.unexpected .bannedToken (stopToken shape) "STR".toList)

/-- An identifier that can name something, under the name of its token. -/
def name (token : String) (t : Text) : Reading (Text × Text) :=
  match identifier? t with
  | none => .error (.unexpected .unknownToken token (describe t))
  | some (id, rest) =>
    if Identifier.isReserved id then .error (.unexpected .reservedId token id) else .ok (id, rest)

/-- The shape whose opening delimiter a text begins with. -/
def shapeAt? (t : Text) : Option Shape :=
  match t with
  | c :: _ => Shape.all.find? (·.opener = c)
  | [] => none

/-- A node with an optional label: the shape of the label, and the rest. -/
def nodeRef (t : Text) : Reading (Option Shape × Text) := do
  let (_, rest) ← name "NODE_STRING" t
  match shapeAt? rest with
  | none => return (none, rest)
  | some shape => return (some shape, ← label shape rest.tail)

/-- A blank inside a link. -/
def isLinkBlank (c : Char) : Bool := c == ' ' || c == '\t'

/-- The arrow that ends every link. -/
def arrow : Text := ['-', '-', '>']

/-- A link at the front of a text: the text on it, if any, and the rest. Without
    a link, the place where one stopped being possible. An arrow may carry its
    text between bars; otherwise text stands between dashes and the arrow. -/
def link (t : Text) : Except Text (Option Text × Text) :=
  match Text.dropPrefix? arrow t with
  | some rest =>
    match rest.dropWhile isLinkBlank with
    | '|' :: piped =>
      match piped.dropWhile (· != '|') with
      | _ :: after => .ok (some (piped.takeWhile (· != '|')), after)
      | [] => .ok (none, rest)
    | _ => .ok (none, rest)
  | none =>
    match t with
    | '-' :: '-' :: rest =>
      match rest with
      | c :: _ =>
        if isLinkBlank c then
          match Text.cut? arrow (rest.dropWhile isLinkBlank) with
          | some (d :: text, after) => .ok (some (d :: text), after)
          | _ => .error (rest.dropWhile isLinkBlank)
        else .error rest
      | [] => .error rest
    | t => .error t

/-- The text on an edge is not blank and holds no quote and no bar. -/
def edgeText (t : Text) : Reading Unit :=
  if t.contains '"' then .error (.unexpected .bannedToken "EDGE_TEXT" "STR".toList)
  else if t.isBlankText || t.contains '|' then
    .error (.unexpected .bannedToken "EDGE_TEXT" "PIPE".toList)
  else .ok ()

/-- What is wrong where a link was expected. Text that touches a closed label
    has most likely been cut off from it. -/
def noLink (closed : Option Shape) (touching : Bool) (t : Text) : Cause :=
  match closed with
  | some shape =>
    if touching then .closedEarly shape (describe t)
    else .unexpected .invalidEdge "LINK" (describe t)
  | none => .unexpected .invalidEdge "LINK" (describe t)

theorem identifier?_shorter {t id rest : Text} (h : identifier? t = some (id, rest)) :
    rest.length < t.length := by
  unfold identifier? at h
  split at h
  · rename_i c r
    split at h
    · simp only [Option.some.injEq, Prod.mk.injEq] at h
      obtain ⟨_, rfl⟩ := h
      have : (r.dropWhile isWordChar).length ≤ r.length := (List.dropWhile_suffix _).length_le
      simp only [List.length_cons]
      omega
    · simp at h
  · simp at h

theorem name_shorter {token : String} {t id rest : Text} (h : name token t = .ok (id, rest)) :
    rest.length < t.length := by
  unfold name at h
  split at h
  · simp at h
  · rename_i id' rest' hid
    split at h
    · simp at h
    · simp only [Except.ok.injEq, Prod.mk.injEq] at h
      obtain ⟨_, rfl⟩ := h
      exact identifier?_shorter hid

theorem label_shorter {shape : Shape} {t rest : Text} (h : label shape t = .ok rest) :
    rest.length < t.length := by
  unfold label at h
  split at h
  · simp at h
  · rename_i body rest' hbody
    split at h
    · simp only [Except.ok.injEq] at h
      subst h
      unfold labelBody? at hbody
      have hle : (t.dropWhile (· != shape.closer)).length ≤ t.length :=
        (List.dropWhile_suffix _).length_le
      split at hbody
      · rename_i c r heq
        simp only [Option.some.injEq, Prod.mk.injEq] at hbody
        obtain ⟨_, rfl⟩ := hbody
        rw [heq, List.length_cons] at hle
        omega
      · simp at hbody
    · simp at h

theorem nodeRef_shorter {t rest : Text} {closed : Option Shape}
    (h : nodeRef t = .ok (closed, rest)) :
    rest.length < t.length := by
  unfold nodeRef at h
  cases hn : name "NODE_STRING" t with
  | error e => simp [hn, bind, Except.bind] at h
  | ok p =>
    obtain ⟨id, after⟩ := p
    have hlt := name_shorter hn
    simp only [hn, bind, Except.bind, pure, Except.pure] at h
    split at h
    · simp only [Except.ok.injEq, Prod.mk.injEq] at h
      obtain ⟨_, rfl⟩ := h
      exact hlt
    · rename_i shape _
      cases hl : label shape after.tail with
      | error e => simp [hl] at h
      | ok r =>
        simp only [hl, Except.ok.injEq, Prod.mk.injEq] at h
        obtain ⟨_, rfl⟩ := h
        have := label_shorter hl
        simp only [List.length_tail] at this
        omega

theorem link_shorter {t rest : Text} {text : Option Text} (h : link t = .ok (text, rest)) :
    rest.length ≤ t.length := by
  unfold link at h
  split at h
  · rename_i after hp
    have hlen : after.length ≤ t.length := by
      rw [Text.dropPrefix?_eq_some_iff.1 hp]
      simp
    split at h
    · rename_i piped hpiped
      have h1 : (after.dropWhile isLinkBlank).length ≤ after.length :=
        (List.dropWhile_suffix _).length_le
      have h2 : (piped.dropWhile (· != '|')).length ≤ piped.length :=
        (List.dropWhile_suffix _).length_le
      rw [hpiped, List.length_cons] at h1
      split at h
      · rename_i c r heq
        simp only [Except.ok.injEq, Prod.mk.injEq] at h
        obtain ⟨_, rfl⟩ := h
        rw [heq, List.length_cons] at h2
        omega
      · simp only [Except.ok.injEq, Prod.mk.injEq] at h
        obtain ⟨_, rfl⟩ := h
        exact hlen
    · simp only [Except.ok.injEq, Prod.mk.injEq] at h
      obtain ⟨_, rfl⟩ := h
      exact hlen
  · split at h
    · split at h
      · rename_i c r _
        split at h
        · split at h
          · rename_i d text' after hcut
            simp only [Except.ok.injEq, Prod.mk.injEq] at h
            obtain ⟨_, rfl⟩ := h
            have h1 := congrArg List.length (Text.eq_of_cut? hcut)
            have h2 : ((c :: r).dropWhile isLinkBlank).length ≤ (c :: r).length :=
              (List.dropWhile_suffix _).length_le
            simp only [List.length_cons, List.length_append] at h1 h2 ⊢
            omega
          · simp at h
        · simp at h
      · simp at h
    · simp at h

/-- What follows a node in a chain: nothing, or a link and another node. -/
def chain (closed : Option Shape) (t : Text) : Reading Unit :=
  if t.trimStart.isEmpty then .ok ()
  else
    match _hl : link t.trimStart with
    | .error place => .error (noLink closed (t.trimStart.length = t.length) place)
    | .ok (text, afterLink) =>
      match (text.map edgeText).getD (.ok ()) with
      | .error e => .error e
      | .ok () =>
        match _hn : nodeRef afterLink.trimStart with
        | .error e => .error e
        | .ok (closed, rest) => chain closed rest
termination_by t.length
decreasing_by
  have h1 := nodeRef_shorter _hn
  have h2 : (Text.trimStart afterLink).length ≤ afterLink.length :=
    (List.dropWhile_suffix _).length_le
  have h3 := link_shorter _hl
  have h4 : (Text.trimStart t).length ≤ t.length := (List.dropWhile_suffix _).length_le
  omega

/-- The rest of a line that opens a block: a name, then an optional label in
    brackets, then nothing or a blank. -/
def blockHeader (t : Text) : Reading Unit := do
  let rest ← match identifier? t with
    | none => .error (.unexpected .unknownToken "SUBGRAPH_ID" (describe t))
    | some (id, rest) =>
      if Identifier.isReserved id then .error (.unexpected .reservedId "SUBGRAPH_ID" id)
      else .ok rest
  let rest ← match rest with
    | '[' :: body => label .rect body
    | rest => .ok rest
  match rest with
  | [] => .ok ()
  | ' ' :: _ => .ok ()
  | rest => .error (.unexpected .bannedToken "NEWLINE" (describe rest))

/-- What a statement does to the blocks that are open. -/
inductive Effect where
  | none
  | opens
  | closes
deriving DecidableEq, Repr

/-- The effect of a line without outer blanks. -/
def statement (line : Text) : Reading Effect := do
  let first := word line
  if line = "end".toList then return .closes
  else if first = "subgraph".toList then
    blockHeader (Text.trimStart (line.drop first.length))
    return .opens
  else if opaqueWords.any (·.toList = first) then return .none
  else
    let (closed, rest) ← nodeRef line
    chain closed rest
    return .none

end Grammar

end Flowchart
