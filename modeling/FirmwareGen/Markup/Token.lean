-- SUMMARY: Cutting an XML text into tags, texts and other pieces.
/-!
# Tokens of a markup document

The lexical level: a document is cut into texts and tags. Tags are told apart by the character
after their opening bracket. Only the contents that something is read from later are kept.

A scan yields the tokens in front of the first lexical error together with that error, so that
errors of later stages in earlier tokens can come first.
-/

namespace FirmwareGen.Markup

/-- White space between the parts of a tag. -/
def isBlank (c : Char) : Bool := c == ' ' || c == '\t' || c == '\n' || c == '\r'

inductive SyntaxError
  | unclosedTag
  | unknownMarkup
  | unclosedComment
  | unclosedCData
  | unclosedDoctype
  | unclosedInstruction
  deriving DecidableEq, Repr

def SyntaxError.message : SyntaxError → String
  | .unclosedTag => "tag not closed: `>` not found before end of input"
  | .unknownMarkup => "unknown or missed symbol in markup"
  | .unclosedComment => "comment not closed: `-->` not found before end of input"
  | .unclosedCData => "CDATA not closed: `]]>` not found before end of input"
  | .unclosedDoctype => "DOCTYPE not closed: `>` not found before end of input"
  | .unclosedInstruction =>
    "processing instruction or xml declaration not closed: `?>` not found before end of input"

inductive Token
  /-- Characters between two tags, at least one. -/
  | characters (content : List Char)
  | comment
  | cdata
  /-- A document type declaration; whether it names a type. -/
  | doctype (named : Bool)
  | instruction
  | declaration
  /-- A start tag: name and attributes. -/
  | start (content : List Char)
  /-- A tag of an element without content: name and attributes. -/
  | empty (content : List Char)
  /-- An end tag: the name, without the white space behind it. -/
  | close (name : List Char)
  deriving DecidableEq, Repr

namespace Token

/-! ## Finding the end of a tag -/

/-- Splits at the first closing bracket at which `closes` holds of what stands between, last
    character first. -/
def upTo (closes : List Char → Bool) (before : List Char) :
    List Char → Option (List Char × List Char)
  | [] => none
  | c :: rest =>
    if c = '>' ∧ closes before then some (before.reverse, rest)
    else upTo closes (c :: before) rest

/-- The number of brackets that are open after a character. -/
def depthAfter (depth : Nat) (c : Char) : Nat :=
  if c = '<' then depth + 1 else if c = '>' then depth - 1 else depth

/-- Splits at the closing bracket that balances the brackets in between, `depth` of which are
    open. -/
def upToBalanced (depth : Nat) : List Char → Option (List Char × List Char)
  | [] => none
  | c :: rest =>
    if c = '>' ∧ depth = 0 then some ([], rest)
    else (upToBalanced (depthAfter depth c) rest).map fun (content, rest) => (c :: content, rest)

/-- The quote that is open after a character. -/
def quoteAfter (quote : Option Char) (c : Char) : Option Char :=
  match quote with
  | some q => if c = q then none else some q
  | none => if c = '"' ∨ c = '\'' then some c else none

/-- Splits at the first closing bracket outside quotes; `quote` is the quote that is open. -/
def upToUnquoted (quote : Option Char) : List Char → Option (List Char × List Char)
  | [] => none
  | c :: rest =>
    if c = '>' ∧ quote = none then some ([], rest)
    else (upToUnquoted (quoteAfter quote c) rest).map fun (content, rest) => (c :: content, rest)

/-! ## Tags by kind -/

/-- Two hyphens close a comment, after the two that open it. -/
def closesComment : List Char → Bool
  | '-' :: '-' :: _ :: _ :: _ => true
  | _ => false

def closesCData : List Char → Bool
  | ']' :: ']' :: _ => true
  | _ => false

def closesInstruction : List Char → Bool
  | '?' :: _ => true
  | _ => false

/-- Whether a text starts with the word DOCTYPE in upper or lower case. -/
def isDoctype (content : List Char) : Bool :=
  content.take 7 |>.map Char.toUpper |> (· == "DOCTYPE".toList)

/-- Whether the target of an instruction is the one of the document declaration. -/
def isDeclaration : List Char → Bool
  | 'x' :: 'm' :: 'l' :: rest => (rest.head?.map fun c => isBlank c || c == '?').getD true
  | _ => false

/-- The tag after `<!`. -/
def readBang : List Char → Except SyntaxError (Token × List Char)
  | '-' :: rest =>
    match upTo closesComment [] ('-' :: rest) with
    | some ('-' :: '-' :: _, rest) => .ok (.comment, rest)
    | _ => .error .unclosedComment
  | '[' :: rest =>
    match upTo closesCData [] ('[' :: rest) with
    | some ('[' :: 'C' :: 'D' :: 'A' :: 'T' :: 'A' :: '[' :: _, rest) => .ok (.cdata, rest)
    | _ => .error .unclosedCData
  | c :: rest =>
    if c = 'D' ∨ c = 'd' then
      match upToBalanced 0 (c :: rest) with
      | some (content, rest) =>
        if isDoctype content then .ok (.doctype (!(content.drop 7).all isBlank), rest)
        else .error .unclosedDoctype
      | none => .error .unclosedDoctype
    else .error .unknownMarkup
  | [] => .error .unknownMarkup

/-- The tag after `<?`. -/
def readInstruction (text : List Char) : Except SyntaxError (Token × List Char) :=
  match upTo closesInstruction ['?'] text with
  | some ('?' :: c :: content, rest) =>
    .ok (if isDeclaration (c :: content) then .declaration else .instruction, rest)
  | _ => .error .unclosedInstruction

/-- Removes the white space at the end of a name; a name of nothing but white space keeps it. -/
def trimEnd (name : List Char) : List Char :=
  match name.reverse.dropWhile isBlank with
  | [] => name
  | kept => kept.reverse

/-- The element tag with the given content. -/
def ofContent : List Char → Token
  | '/' :: name => .close (trimEnd name)
  | content =>
    if content.getLast? = some '/' then .empty content.dropLast else .start content

/-- The tag after `<`. -/
def readTag : List Char → Except SyntaxError (Token × List Char)
  | '!' :: rest => readBang rest
  | '?' :: rest => readInstruction rest
  | text =>
    match upToUnquoted none text with
    | some (content, rest) => .ok (ofContent content, rest)
    | none => .error .unclosedTag

/-- The first token of a text that is not empty. -/
def readFirst (c : Char) (rest : List Char) : Except SyntaxError (Token × List Char) :=
  if c = '<' then readTag rest
  else .ok (.characters (c :: rest.takeWhile (· != '<')), rest.dropWhile (· != '<'))

/-! ## Every token takes a character -/

theorem length_upTo {closes : List Char → Bool} {before text content rest : List Char}
    (h : upTo closes before text = some (content, rest)) : rest.length < text.length := by
  induction text generalizing before with
  | nil => simp [upTo] at h
  | cons c text ih =>
    rw [upTo] at h
    split at h
    · simp only [Option.some.injEq, Prod.mk.injEq] at h
      simp [h.2]
    · have := ih h
      simp only [List.length_cons]; omega

theorem length_upToBalanced {depth : Nat} {text content rest : List Char}
    (h : upToBalanced depth text = some (content, rest)) : rest.length < text.length := by
  induction text generalizing depth content rest with
  | nil => simp [upToBalanced] at h
  | cons c text ih =>
    rw [upToBalanced] at h
    split at h
    · simp only [Option.some.injEq, Prod.mk.injEq] at h
      simp [h.2]
    · obtain ⟨⟨content', rest'⟩, hr, heq⟩ := Option.map_eq_some_iff.1 h
      simp only [Prod.mk.injEq] at heq
      have := ih hr
      simp only [List.length_cons, ← heq.2]; omega

theorem length_upToUnquoted {quote : Option Char} {text content rest : List Char}
    (h : upToUnquoted quote text = some (content, rest)) : rest.length < text.length := by
  induction text generalizing quote content rest with
  | nil => simp [upToUnquoted] at h
  | cons c text ih =>
    rw [upToUnquoted] at h
    split at h
    · simp only [Option.some.injEq, Prod.mk.injEq] at h
      simp [h.2]
    · obtain ⟨⟨content', rest'⟩, hr, heq⟩ := Option.map_eq_some_iff.1 h
      simp only [Prod.mk.injEq] at heq
      have := ih hr
      simp only [List.length_cons, ← heq.2]; omega

theorem length_readBang {text rest : List Char} {token : Token}
    (h : readBang text = .ok (token, rest)) : rest.length < text.length := by
  unfold readBang at h
  split at h
  · split at h
    · next hu =>
      simp only [Except.ok.injEq, Prod.mk.injEq] at h
      exact h.2 ▸ length_upTo hu
    · cases h
  · split at h
    · next hu =>
      simp only [Except.ok.injEq, Prod.mk.injEq] at h
      exact h.2 ▸ length_upTo hu
    · cases h
  · split at h
    · split at h
      · next hu =>
        split at h
        · simp only [Except.ok.injEq, Prod.mk.injEq] at h
          exact h.2 ▸ length_upToBalanced hu
        · cases h
      · cases h
    · cases h
  · cases h

theorem length_readInstruction {text rest : List Char} {token : Token}
    (h : readInstruction text = .ok (token, rest)) : rest.length < text.length := by
  unfold readInstruction at h
  split at h
  · next hu =>
    simp only [Except.ok.injEq, Prod.mk.injEq] at h
    exact h.2 ▸ length_upTo hu
  · cases h

theorem length_readTag {text rest : List Char} {token : Token}
    (h : readTag text = .ok (token, rest)) : rest.length < text.length := by
  unfold readTag at h
  split at h
  · have := length_readBang h
    simp only [List.length_cons]; omega
  · have := length_readInstruction h
    simp only [List.length_cons]; omega
  · split at h
    · next hu =>
      simp only [Except.ok.injEq, Prod.mk.injEq] at h
      exact h.2 ▸ length_upToUnquoted hu
    · cases h

theorem length_readFirst {c : Char} {text rest : List Char} {token : Token}
    (h : readFirst c text = .ok (token, rest)) : rest.length < (c :: text).length := by
  unfold readFirst at h
  split at h
  · have := length_readTag h
    simp only [List.length_cons]; omega
  · simp only [Except.ok.injEq, Prod.mk.injEq] at h
    have := (List.dropWhile_sublist (l := text) (· != '<')).length_le
    rw [h.2] at this
    simp only [List.length_cons]; omega

/-! ## Scanning -/

/-- The tokens in front of the first lexical error, and that error. -/
def scan : List Char → List Token × Option SyntaxError
  | [] => ([], none)
  | c :: text =>
    match _h : readFirst c text with
    | .error e => ([], some e)
    | .ok (token, rest) =>
      let (tokens, failure) := scan rest
      (token :: tokens, failure)
termination_by text => text.length
decreasing_by exact length_readFirst _h

end Token

end FirmwareGen.Markup
