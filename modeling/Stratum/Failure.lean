import Stratum.Files.Error
import Stratum.Manifest
import Stratum.Text.Quoted
import Stratum.Web.Error

/-!
# Why a repository cannot be used

Every operation on repositories fails with one of these causes. A cause holds what the
message needs, and only one of them, `repositoryNotFound`, means that the repository itself is
not there.
-/

namespace Stratum

/-- The causes of failure. -/
inductive Failure where
  /-- There is no repository at this place. -/
  | repositoryNotFound (location : String)
  /-- The repository declares a kind or a backend that is not handled. -/
  | unknownKind (fqrn kind : String)
  /-- A field of the server configuration is missing. -/
  | fieldNotFound (repository field : String)
  /-- The repository has no such artifact. -/
  | artifactNotFound (repository name : String)
  /-- The server refused to start a replication. -/
  | cannotReplicate (repository : String)
  /-- There is no configuration root. -/
  | notInstalled (root : String)
  /-- A storage specification does not have three parts. -/
  | malformedStorage (fqrn value : String)
  | badManifest (cause : ManifestError)
  /-- A marker holds no time. -/
  | badTimestamp (text : String)
  | badUrl (cause : UrlError)
  /-- A layout file is no layout. -/
  | badLayout (path : String)
  | io (cause : IoError)
  | http (cause : HttpError)
  /-- An answer is not the JSON that was expected. -/
  | badJson
deriving DecidableEq, Repr

namespace Failure

/-- Whether this means that the repository itself is not there. -/
def isNotFound : Failure → Bool
  | repositoryNotFound _ => true
  | _ => false

/-- What is wrong, in words. -/
def message : Failure → String
  | repositoryNotFound location => location ++ " not found"
  | unknownKind fqrn kind => fqrn ++ " (" ++ kind ++ ")"
  | fieldNotFound repository field =>
    repository ++ ": configuration field " ++ field ++ " not found"
  | artifactNotFound repository name => name.quoted ++ " not found in " ++ repository
  | cannotReplicate repository => "cannot start replication of " ++ repository
  | notInstalled root => "CVMFS is not installed (" ++ root ++ " does not exist)"
  | malformedStorage fqrn value => fqrn ++ ": malformed upstream storage " ++ value.quoted
  | badManifest cause => "Invalid manifest: " ++ cause.message
  | badTimestamp text => "Invalid timestamp: " ++ text.quoted
  | badUrl cause => "Invalid repository URL: " ++ cause.message
  | badLayout path => "Configuration error: " ++ path
  | io cause => "I/O error: " ++ cause.message
  | http cause => "HTTP error: " ++ cause.message
  | badJson => "JSON error: "

/-- Only a missing repository counts as not found; a missing artifact does not. -/
theorem isNotFound_iff {e : Failure} :
    e.isNotFound = true ↔ ∃ location, e = repositoryNotFound location := by
  cases e <;> simp [isNotFound]

end Failure

end Stratum
