import CloudApi.Url.Authority

/-! Reading URLs of files.

They have a host or none, no port and no user; a path that begins with a drive has no host.
Line breaks and tabs are left in the texts here, because one can end a drive. -/
namespace CloudApi.Url

/-- Whether a text begins with a drive and nothing but a slash or a tail behind it. -/
def startsWithDrive (cs : List Char) : Bool :=
  let cs := unbroken cs
  Drive.isDrive (cs.take 2) && (cs.drop 2).head?.all fun c => isSlash true c || isTail c

def fileUrl (host : Host) : Url :=
  ⟨"file".toList, some ⟨[], [], host, none⟩, .segments [], none, none⟩

/-- A file URL behind two slashes: a host, unless a drive stands there. Without a host the slash
behind it belongs to the path. -/
def readFileHost (cs : List Char) : Except ParseError Url := do
  let (text, rest) := cs.span fun c => !(isSlash true c || isTail c)
  let text := unbroken text
  let nowhere := fileUrl (.name [])
  if Drive.isDrive text then .ok (nowhere.withPath [] cs)
  else if text.isEmpty then .ok (nowhere.withPath [] rest)
  else
    let host ← readHost true text
    if host = .name "localhost".toList then .ok (nowhere.withPath [] rest)
    else
      let path := if rest.head?.any (isSlash true) then rest.drop 1 else rest
      let (u, drive) := (fileUrl host).readPath (resolve true ⟨[], false⟩) path
      .ok (if drive then { u with authority := nowhere.authority } else u)

/-- The drive at the start of a path. -/
def driveOf (u : Url) : List (List Char) :=
  match u.path with
  | .segments (s :: _) => if Drive.isNamed s then [s] else []
  | _ => []

/-- A file URL from what follows one slash: on the drive or else the host of the base, unless it
gives a drive itself. -/
def readFileRoot (base : Option Url) (cs : List Char) : Url :=
  let nowhere := fileUrl (.name [])
  match base with
  | none => nowhere.withPath [] cs
  | some b =>
    if startsWithDrive cs then nowhere.withPath [] cs
    else match driveOf b with
      | [] => { nowhere with authority := b.authority }.withPath [] cs
      | drive => nowhere.withPath drive cs

/-- A reference against a file URL, in place of its last segment. That does not give way if it is
a drive: it is then the root of the path, or else the segment is continued. -/
def readFileSibling (base : Url) (cs : List Char) : Url :=
  match base.path with
  | .flat _ => base.withPath [] cs
  | .segments list =>
    let last := list.getLast?.getD []
    if !Drive.isNamed last then base.withPath list.dropLast cs
    else if list.length = 1 then base.withPath list cs
    else (base.readPath (extend list.dropLast last) cs).1

/-- A file URL or a reference against one. -/
def readFile (base : Option Url) (cs : List Char) : Except ParseError Url :=
  match base, cs.dropWhile isBreak with
  | none, [] => .ok ((fileUrl (.name [])).withPath [] [])
  | some b, [] => .ok b.withoutFragment
  | base, c :: rest =>
    if isSlash true c then
      match rest.dropWhile isBreak with
      | d :: behind =>
        if isSlash true d then readFileHost behind else .ok (readFileRoot base rest)
      | [] => .ok (readFileRoot base rest)
    else match base with
      | none => .ok ((fileUrl (.name [])).withPath [] cs)
      | some b =>
        if c = '?' then .ok (withTail b (unbroken cs))
        else if c = '#' then .ok { b with fragment := readFragment (unbroken cs) }
        else if startsWithDrive cs then .ok ((fileUrl (.name [])).withPath [] cs)
        else .ok (readFileSibling b cs)

end CloudApi.Url
