import DeploymentLab.Model.Config
import Mathlib.Data.List.DropRight

/-!
# The URLs of requests

`urllib.parse.urljoin`, the check of `_trusted_url` on what it joins, and the paths that
`GitHubClient` asks for under its base URL.
-/

namespace DeploymentLab

structure ParseResult extends SplitResult where
  params : String
  deriving DecidableEq

def webScheme (scheme : String) : Bool := scheme == "http" || scheme == "https"

/-- `_splitparams`: the last segment of a path up to its first semicolon, and what follows. -/
def splitParams (path : List Char) : List Char × List Char :=
  let last := afterLast '/' path
  let (head, _, params) := partitionAt ';' last
  (path.take (path.length - last.length) ++ head, params)

/-- `urlparse` of a URL whose scheme, if it has none of its own, is `scheme`. -/
def urlparse [Runtime] (url scheme : String) : Except Exn ParseResult := do
  let split ← urlsplit url
  let scheme := if split.scheme = "" then scheme else split.scheme
  if scheme = "" ∨ webScheme scheme then
    let (path, params) := splitParams split.path.toList
    pure { split with scheme, path := String.ofList path, params := String.ofList params }
  else pure { split with scheme, params := "" }

/-- `urlunparse` of a URL of `http` or `https`. -/
def urlunparse (parsed : ParseResult) : String :=
  let path := if parsed.params = "" then parsed.path else parsed.path ++ ";" ++ parsed.params
  urlunsplit parsed.scheme parsed.netloc path ++
    (if parsed.query = "" then "" else "?" ++ parsed.query) ++
    if parsed.fragment = "" then "" else "#" ++ parsed.fragment

/-- The segments of a path that is being joined, without those that are empty in the middle. -/
def withoutRedundantSlashes : List (List Char) → List (List Char)
  | first :: second :: rest =>
    first :: ((second :: rest).dropLast.filter (· ≠ []) ++ (second :: rest).getLast?.toList)
  | segments => segments

/-- One segment of a path on the stack of those before it. -/
def resolveSegment (resolved : List (List Char)) (segment : List Char) : List (List Char) :=
  if segment = ['.', '.'] then resolved.dropLast
  else if segment = ['.'] then resolved
  else resolved ++ [segment]

def isDotSegment (segment : List Char) : Bool := segment == ['.'] || segment == ['.', '.']

/-- The parts of the base path: its last one, which is no directory, does not count. -/
def baseParts (bpath : List Char) : List (List Char) :=
  if (bpath.splitOn '/').getLast? = some [] then bpath.splitOn '/'
  else (bpath.splitOn '/').dropLast

/-- The path of `urljoin`. -/
def joinPath (bpath path : List Char) : List Char :=
  let segments :=
    if path.head? = some '/' then path.splitOn '/'
    else withoutRedundantSlashes (baseParts bpath ++ path.splitOn '/')
  let resolved := segments.foldl resolveSegment []
  let resolved := if segments.getLast?.any isDotSegment then resolved ++ [[]] else resolved
  match List.intercalate ['/'] resolved with
  | [] => ['/']
  | joined => joined

/-- `urljoin` onto a URL of `http` or `https`: the settings accept no base of another scheme. -/
def urljoin [Runtime] (base url : String) : Except Exn String := do
  if base = "" then pure url
  else if url = "" then pure base
  else
    let b ← urlparse base ""
    let u ← urlparse url b.scheme
    if u.scheme ≠ b.scheme ∨ !webScheme u.scheme then pure url
    else if u.netloc ≠ "" then pure (urlunparse u)
    else if u.path = "" ∧ u.params = "" then
      pure (urlunparse { u with
        netloc := b.netloc
        path := b.path
        params := b.params
        query := if u.query = "" then b.query else u.query })
    else
      pure (urlunparse { u with
        netloc := b.netloc
        path := String.ofList (joinPath b.path.toList u.path.toList) })

/-- The base URL with one slash at its end. -/
def normalizedBase (baseUrl : String) : String :=
  String.ofList (baseUrl.toList.rdropWhile (· == '/')) ++ "/"

/-- `_trusted_url`. A URL has a username, perhaps an empty one, where its location has an `@`. -/
def trustedUrl [Runtime] (baseUrl path : String) : Except Exn String := do
  if ['/', '/'] <+: path.toList then
    throw (.valueError "provider path must not replace the configured host")
  let url ← urljoin (normalizedBase baseUrl) (String.ofList (path.toList.dropWhile (· == '/')))
  let base ← urlsplit (normalizedBase baseUrl)
  let parsed ← urlsplit url
  if parsed.scheme ≠ base.scheme ∨ parsed.hostname ≠ base.hostname then
    throw (.valueError "provider URL escaped the configured host")
  let port ← parsed.port
  let basePort ← base.port
  if port ≠ basePort ∨ parsed.netloc.toList.contains '@' then
    throw (.valueError "provider URL escaped the configured host")
  pure url

/-- The characters that `quote` leaves as they are. -/
def unreserved (c : Char) : Bool := c.isAlphanum || ['_', '.', '-', '~'].contains c

def quoteByte (b : UInt8) : List Char :=
  ['%', (hexDigit (b.toNat / 16)).toUpper, (hexDigit b.toNat).toUpper]

/-- `quote(s, safe="")`. -/
def quote (s : String) : String :=
  String.ofList (s.toList.flatMap fun c =>
    if unreserved c then [c] else (String.utf8EncodeChar c).flatMap quoteByte)

/-- `_repository_path`. -/
def repositoryPath (repository : String) : Except Exn String :=
  let (owner, found, name) := partitionAt '/' repository.toList
  if found then .ok (quote (String.ofList owner) ++ "/" ++ quote (String.ofList name))
  else .error (.valueError "not enough values to unpack (expected 2, got 1)")

/-- The requests of `GitHubClient`: of the user, and of a repository, the head of its branch, an
issue, a comment, and the comments of an issue to add to or to read page by page. -/
inductive GitHubRequest
  | user
  | repository
  | commit (defaultBranch : String)
  | issue (issueNumber : ℤ)
  | comment (commentId : String)
  | comments (issueNumber : ℤ)
  | commentsPage (issueNumber : ℤ) (page : ℕ)

namespace GitHubRequest

/-- What the request asks for under the path of the repository. -/
def suffix : GitHubRequest → String
  | .user | .repository => ""
  | .commit defaultBranch => "/commits/" ++ quote defaultBranch
  | .issue issueNumber => "/issues/" ++ toString issueNumber
  | .comment commentId => "/issues/comments/" ++ quote commentId
  | .comments issueNumber => "/issues/" ++ toString issueNumber ++ "/comments"
  | .commentsPage issueNumber page =>
    "/issues/" ++ toString issueNumber ++ "/comments?per_page=100&page=" ++ toString page

def path (repository : String) : GitHubRequest → Except Exn String
  | .user => .ok "user"
  | request => do
    let repoPath ← repositoryPath repository
    pure ("repos/" ++ repoPath ++ request.suffix)

/-- The URL that the request goes to. -/
def url [Runtime] (baseUrl repository : String) (request : GitHubRequest) : Except Exn String := do
  let path ← request.path repository
  trustedUrl baseUrl path

end GitHubRequest

end DeploymentLab
