import DeploymentLab.Model.Vocabulary

/-!
# Source URLs

`urllib.parse.urlsplit` as far as the repository reads its result, and the canonical form of
a source URL.
-/

namespace DeploymentLab

/-- `str.partition`: the text before the first `sep`, whether there is one, the text after. -/
def partitionAt (sep : Char) : List Char → List Char × Bool × List Char
  | [] => ([], false, [])
  | c :: cs =>
    if c = sep then ([], true, cs)
    else
      let (head, found, tail) := partitionAt sep cs
      (c :: head, found, tail)

section Partition

variable {sep c : Char} {cs head tail : List Char}

lemma partitionAt_append (h : sep ∉ head) :
    partitionAt sep (head ++ sep :: tail) = (head, true, tail) := by
  induction head with
  | nil => rw [List.nil_append, partitionAt, if_pos rfl]
  | cons c head ih =>
    rw [List.mem_cons, not_or] at h
    rw [List.cons_append, partitionAt, if_neg (Ne.symm h.1), ih h.2]

lemma partitionAt_of_notMem (h : sep ∉ cs) : partitionAt sep cs = (cs, false, []) := by
  induction cs with
  | nil => rfl
  | cons c cs ih =>
    rw [List.mem_cons, not_or] at h
    rw [partitionAt, if_neg (Ne.symm h.1), ih h.2]

lemma notMem_partitionAt : sep ∉ (partitionAt sep cs).1 := by
  induction cs with
  | nil => simp [partitionAt]
  | cons c cs ih =>
    rw [partitionAt]
    split
    · simp
    · rename_i hne
      rw [List.mem_cons, not_or]
      exact ⟨Ne.symm hne, ih⟩

/-- The parts of a text are the text again. -/
lemma partitionAt_parts (sep : Char) (cs : List Char) :
    (partitionAt sep cs).1 ++ (if (partitionAt sep cs).2.1 then [sep] else []) ++
      (partitionAt sep cs).2.2 = cs := by
  induction cs with
  | nil => rfl
  | cons c cs ih =>
    rw [partitionAt]
    split
    · rename_i heq
      rw [heq]
      rfl
    · exact congrArg (c :: ·) ih

lemma mem_of_mem_partitionAt_fst (h : c ∈ (partitionAt sep cs).1) : c ∈ cs := by
  rw [← partitionAt_parts sep cs]
  exact List.mem_append_left _ (List.mem_append_left _ h)

lemma mem_of_mem_partitionAt_snd (h : c ∈ (partitionAt sep cs).2.2) : c ∈ cs := by
  rw [← partitionAt_parts sep cs]
  exact List.mem_append_right _ h

/-- Without the separator all of the text is in the first part. -/
lemma partitionAt_not_found (h : (partitionAt sep cs).2.1 = false) :
    partitionAt sep cs = (cs, false, []) := by
  apply partitionAt_of_notMem
  intro hmem
  obtain ⟨head, tail, rfl, hhead⟩ := List.eq_append_cons_of_mem hmem
  rw [partitionAt_append hhead] at h
  cases h

end Partition

/-- The text after the last `sep`, or all of it: the last part of `str.rpartition`. -/
def afterLast (sep : Char) (cs : List Char) : List Char :=
  (cs.reverse.takeWhile (· ≠ sep)).reverse

structure SplitResult where
  scheme : String
  netloc : String
  path : String
  query : String
  fragment : String
  deriving DecidableEq, Repr

def schemeChar (c : Char) : Bool := c.isAlphanum || c == '+' || c == '-' || c == '.'

/-- The leading C0 control characters and blanks that `urlsplit` drops. -/
def controlOrSpace (c : Char) : Bool := decide (c.toNat ≤ 32)

def unsafeUrlByte (c : Char) : Bool := c == '\t' || c == '\r' || c == '\n'

/-- The scheme in front of the first colon, when its characters allow one. -/
def splitScheme [Runtime] (url : List Char) : String × List Char :=
  let (head, found, tail) := partitionAt ':' url
  if found && head.head?.any Char.isAlpha && head.all schemeChar then
    (Runtime.lower (String.ofList head), tail)
  else ("", url)

def netlocDelimiter (c : Char) : Bool := c == '/' || c == '?' || c == '#'

/-- `_check_bracketed_host`. -/
def bracketedHostAllowed [Runtime] (hostname : List Char) : Bool :=
  match hostname with
  | 'v' :: rest =>
    let (version, found, address) := partitionAt '.' rest
    found && !version.isEmpty && version.all (fun c => c.isDigit ||
      decide ('a' ≤ c ∧ c ≤ 'f') || decide ('A' ≤ c ∧ c ≤ 'F')) && !address.isEmpty
  | _ => Runtime.ipv6Address (String.ofList hostname)

/-- `_check_bracketed_netloc`. -/
def bracketedNetlocAllowed [Runtime] (netloc : List Char) : Bool :=
  let hostnameAndPort := afterLast '@' netloc
  let (beforeBracket, haveOpenBracket, bracketed) := partitionAt '[' hostnameAndPort
  if haveOpenBracket then
    let (hostname, _, port) := partitionAt ']' bracketed
    beforeBracket.isEmpty && (port.isEmpty || port.head? == some ':') &&
      bracketedHostAllowed hostname
  else bracketedHostAllowed (partitionAt ':' hostnameAndPort).1

/-- `_checknetloc`: no delimiter may appear under NFKC normalisation. -/
def netlocAllowed [Runtime] (netloc : List Char) : Bool :=
  netloc.all (fun c => decide (c.toNat < 128)) ||
    let bare := String.ofList (netloc.filter fun c => c ∉ ['@', ':', '#', '?'])
    let normal := Runtime.nfkc bare
    normal == bare || normal.toList.all fun c => decide (c ∉ ['/', '?', '#', '@', ':'])

def urlsplit [Runtime] (url : String) : Except Exn SplitResult := do
  let cleaned := (url.toList.dropWhile controlOrSpace).filter fun c => !unsafeUrlByte c
  let (scheme, rest) := splitScheme cleaned
  let (netloc, rest) := match rest with
    | '/' :: '/' :: rest =>
      (rest.takeWhile fun c => !netlocDelimiter c, rest.dropWhile fun c => !netlocDelimiter c)
    | _ => ([], rest)
  if netloc.contains '[' != netloc.contains ']' then
    throw (.valueError "Invalid IPv6 URL")
  if netloc.contains '[' && netloc.contains ']' && !bracketedNetlocAllowed netloc then
    throw (.valueError "Invalid IPv6 URL")
  let (rest, _, fragment) := partitionAt '#' rest
  let (path, _, query) := partitionAt '?' rest
  if !netlocAllowed netloc then
    throw (.valueError "netloc contains invalid characters under NFKC normalization")
  pure {
    scheme
    netloc := String.ofList netloc
    path := String.ofList path
    query := String.ofList query
    fragment := String.ofList fragment }

namespace SplitResult

variable (parsed : SplitResult)

/-- `_hostinfo`: the host as written, and the port when one is written. -/
def hostinfo : List Char × Option (List Char) :=
  let info := afterLast '@' parsed.netloc.toList
  let (_, haveOpenBracket, bracketed) := partitionAt '[' info
  let (hostname, port) :=
    if haveOpenBracket then
      let (hostname, _, rest) := partitionAt ']' bracketed
      (hostname, (partitionAt ':' rest).2.2)
    else
      let (hostname, _, port) := partitionAt ':' info
      (hostname, port)
  (hostname, if port.isEmpty then none else some port)

/-- The host in lower case, up to the zone of a scoped address. -/
def hostname [Runtime] : Option String :=
  let host := parsed.hostinfo.1
  if host.isEmpty then none
  else
    let (address, hasZone, zone) := partitionAt '%' host
    some (Runtime.lower (String.ofList address) ++
      String.ofList (if hasZone then '%' :: zone else []))

def port : Except Exn (Option ℕ) :=
  match parsed.hostinfo.2 with
  | none => .ok none
  | some digits =>
    if digits.all Char.isDigit then
      let value := digits.foldl (fun n c => 10 * n + (c.toNat - 48)) 0
      if value ≤ 65535 then .ok (some value)
      else .error (.valueError "Port out of range 0-65535")
    else .error (.valueError "Port could not be cast to integer value")

end SplitResult

/-- `urlunsplit` of the parts that `canonical_source_url` keeps. -/
def urlunsplit (scheme netloc path : String) : String :=
  let path := if path ≠ "" ∧ path.toList.head? ≠ some '/' then "/" ++ path else path
  scheme ++ ":" ++ "//" ++ netloc ++ path

/-- Remove query, fragment and userinfo from a safe source URL. -/
def canonicalSourceUrl [Runtime] (value : String) : Except Exn String := do
  let parsed ← urlsplit value
  match parsed.hostname with
  | none => throw (.valueError "source URL must be absolute HTTP(S)")
  | some hostname =>
    if parsed.scheme ≠ "http" ∧ parsed.scheme ≠ "https" then
      throw (.valueError "source URL must be absolute HTTP(S)")
    let port ← parsed.port
    let suffix := match port with
      | some port => ":" ++ toString port
      | none => ""
    pure (urlunsplit parsed.scheme (hostname ++ suffix) parsed.path)

end DeploymentLab
