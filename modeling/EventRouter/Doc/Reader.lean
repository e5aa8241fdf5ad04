import EventRouter.Doc.Token

/-! Reading tokens into a document. The reader goes from token to token, keeping the arrays and
objects that are still open; where a token does not fit, the document is closed around a fault. -/

namespace EventRouter

/-- An array or object that is still open around the place of the reader. -/
inductive Frame where
  /-- In an array, behind the items `done`, the last one first. -/
  | item (done : List Doc)
  /-- In an object, at the value of a name, behind the members `done`, the last one first. -/
  | member (done : List (Name × Doc)) (name : Name)

/-- The frame closed around the document at its place. -/
def Frame.close (d : Doc) : Frame → Doc
  | .item done => .array (d :: done).reverse
  | .member done name => .object ((name, d) :: done).reverse

/-- The frames closed around a document, the innermost one first. -/
def Frame.closeAll (d : Doc) (frames : List Frame) : Doc := frames.foldl Frame.close d

/-- Where the reader stands. -/
inductive Place where
  /-- A value has to come. -/
  | value (frames : List Frame)
  /-- An item has to come or, if `mayClose`, the end of the array. -/
  | item (done : List Doc) (mayClose : Bool) (frames : List Frame)
  /-- A name has to come or, if `mayClose`, the end of the object. -/
  | name (done : List (Name × Doc)) (mayClose : Bool) (frames : List Frame)
  /-- A colon has to come. -/
  | colon (done : List (Name × Doc)) (name : Name) (frames : List Frame)
  /-- A value is complete. -/
  | after (d : Doc) (frames : List Frame)
  /-- The document is complete, and more text follows it. -/
  | beyond (d : Doc)
  /-- Reading cannot go on; the document holds what was read. -/
  | stopped (d : Doc)

namespace Place

/-- Reading stops where a value stands. -/
def stopAtValue (frames : List Frame) : Place :=
  .stopped (Frame.closeAll (.fault .malformed) frames)

/-- Reading stops where a name stands. -/
def stopAtName (done : List (Name × Doc)) (name : Name) (frames : List Frame) : Place :=
  .stopped (Frame.closeAll (.object ((name, .fault .malformed) :: done).reverse) frames)

/-- Whether one more bracket may be opened inside the frames. -/
def mayOpen (rules : Grammar) (frames : List Frame) : Bool :=
  match rules.depth with
  | none => true
  | some depth => frames.length < depth

/-- The place behind a token at which a value begins. -/
def atValue (rules : Grammar) (frames : List Frame) (t : Token) : Place :=
  match t.value? with
  | some d => .after d frames
  | none =>
    match t with
    | .openArray =>
      if mayOpen rules frames then .item [] true frames else stopAtValue (.item [] :: frames)
    | .openObject =>
      if mayOpen rules frames then .name [] true frames
      else stopAtName [] (.fault .malformed) frames
    | _ => stopAtValue frames

/-- The member name that a token stands for, if it is one. -/
def name? (rules : Grammar) : Token → Option Name
  | .string (.ok s) => some (.text s)
  | .string (.error f) => some (.fault f)
  | .name (.ok s) => some (.text s)
  | .name (.error f) => some (.fault f)
  | .word w => if rules.bareNames then some (.text w.text) else none
  | _ => none

/-- The place behind a token at which a name begins. -/
def atName (rules : Grammar) (done : List (Name × Doc)) (frames : List Frame) (t : Token) :
    Place :=
  match name? rules t with
  | some n => .colon done n frames
  | none => stopAtName done (.fault .malformed) frames

/-- The place behind the next token. -/
def step (rules : Grammar) (place : Place) (t : Token) : Place :=
  match place, t with
  | .value frames, t => atValue rules frames t
  | .item done true frames, .closeArray => .after (.array done.reverse) frames
  | .item done _ frames, t => atValue rules (.item done :: frames) t
  | .name done true frames, .closeObject => .after (.object done.reverse) frames
  | .name done _ frames, t => atName rules done frames t
  | .colon done n frames, .colon => .value (.member done n :: frames)
  | .colon done n frames, _ => stopAtValue (.member done n :: frames)
  | .after d [], _ => .beyond d
  | .after d (.item done :: frames), .comma => .item (d :: done) rules.trailingComma frames
  | .after d (.item done :: frames), .closeArray => .after (.array (d :: done).reverse) frames
  | .after d (.item done :: frames), _ => stopAtValue (.item (d :: done) :: frames)
  | .after d (.member done n :: frames), .comma =>
    .name ((n, d) :: done) rules.trailingComma frames
  | .after d (.member done n :: frames), .closeObject =>
    .after (.object ((n, d) :: done).reverse) frames
  | .after d (.member done n :: frames), _ =>
    stopAtName ((n, d) :: done) (.fault .malformed) frames
  | .beyond d, _ => .beyond d
  | .stopped d, _ => .stopped d

/-- The document at the end of the text. -/
def finish : Place → Doc
  | .value frames => Frame.closeAll (.fault .malformed) frames
  | .item done _ frames => Frame.closeAll (.fault .malformed) (.item done :: frames)
  | .name done _ frames =>
    Frame.closeAll (.object ((.fault .malformed, .fault .malformed) :: done).reverse) frames
  | .colon done n frames => Frame.closeAll (.fault .malformed) (.member done n :: frames)
  | .after d [] => d
  | .after d (.item done :: frames) =>
    Frame.closeAll (.fault .malformed) (.item (d :: done) :: frames)
  | .after d (.member done n :: frames) =>
    Frame.closeAll (.object ((.fault .malformed, .fault .malformed) :: (n, d) :: done).reverse)
      frames
  | .beyond d => d
  | .stopped d => d

/-- Whether the text is one whole document and nothing else. -/
def isWhole : Place → Bool
  | .after _ [] => true
  | _ => false

end Place

/-- The place behind all tokens of a text. -/
def Grammar.read (rules : Grammar) (tokens : List Token) : Place :=
  tokens.foldl (Place.step rules) (.value [])

end EventRouter
