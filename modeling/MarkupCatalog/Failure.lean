import MarkupCatalog.Charset.Fault
import MarkupCatalog.FileSystem.Fault
import MarkupCatalog.Yaml.Cursor

/-!
# Failures

Everything that can end a run early, with its cause.  What is said about a failure is
decided here and nowhere else.
-/

namespace MarkupCatalog

/-- What is wrong with the options of a run or with the file that they come from. -/
inductive ConfigProblem
  | noOptions
  | optionsNotMapping
  | rootMissing
  | notPath (key : Text)
  | notText (key : Text)
  | notNonEmptyText (key : Text)
  | notCallable (key : Text)
  | notTextList (key : Text)
  | unknownMode (name : Text)
  | unknownCharset (name : Text)
  | unparsable (file : Text)
  | fileNotMapping (file : Text)
  | templateUnreadable (path : Text) (refusal : FileSystem.Refusal)
  deriving DecidableEq, Repr

/-- What is said about a problem. -/
def ConfigProblem.message : ConfigProblem → Text
  | .noOptions => "settings mapping is required"
  | .optionsNotMapping => "settings must be a mapping"
  | .rootMissing => "settings.root_directory is required"
  | .notPath key => "settings." ++ key ++ " must be a path"
  | .notText key => "settings." ++ key ++ " must be a string"
  | .notNonEmptyText key => "settings." ++ key ++ " must be a non-empty string"
  | .notCallable key => "settings." ++ key ++ " must be callable"
  | .notTextList key => "settings." ++ key ++ " must be a string or a list of strings"
  | .unknownMode name =>
      "settings.serialize must be one of record, rendered, got " ++ Text.quoted name
  | .unknownCharset name => "settings.encoding is not a known codec: " ++ Text.quoted name
  | .unparsable file => "Failed to parse " ++ file ++ ": " ++ Yaml.Fault.malformed.message
  | .fileNotMapping file => file ++ " must contain a mapping at the root"
  | .templateUnreadable path refusal =>
      "Cannot read template file " ++ path ++ ": " ++ refusal.message

/-- The kind of an error that is raised by code which the caller supplies. -/
inductive CallerKind
  | system
  | value
  | runtime
  deriving DecidableEq, Repr

/-- Why a run, or a part of it, ends early. -/
inductive Failure
  | config (problem : ConfigProblem)
  | refused (refusal : FileSystem.Refusal)
  /-- The directory to be scanned is not there. -/
  | rootNotFound (root : Text)
  /-- The directory to be scanned is something else. -/
  | rootNotDirectory (root : Text)
  | undecodable (fault : Charset.DecodeFault)
  | unencodable (fault : Charset.EncodeFault)
  /-- A text of this family of charsets lacks its byte order mark. -/
  | unmarked (family : Text)
  /-- No text can be read or written in the charset. -/
  | undefinedCharset
  | unknownCharset (name : Text)
  | notTextCharset (name : Text)
  /-- A charset name holds the character U+0000. -/
  | nullInName
  /-- A path holds the character U+0000. -/
  | nullInPath
  | noHome
  | linkLoop (path : Text)
  | yaml (fault : Yaml.Fault)
  | emptyKeyword
  /-- A path is expected among the arguments, and the separator stands there. -/
  | pathDropped
  /-- A template file is expected among the arguments, and the separator stands there. -/
  | templateDropped
  | channelEnded
  | writeAfterEnd
  /-- Raised by code which the caller supplies. -/
  | caller (kind : CallerKind) (message : Text)
  deriving DecidableEq, Repr

namespace Failure

/-- What is said about a failure. -/
def message : Failure → Text
  | .config problem => problem.message
  | .refused refusal => refusal.message
  | .rootNotFound root => "Component root not found: " ++ root
  | .rootNotDirectory root => "Component root is not a directory: " ++ root
  | .undecodable fault => fault.message
  | .unencodable fault => fault.message
  | .unmarked family => family ++ " stream does not start with BOM"
  | .undefinedCharset => "undefined encoding"
  | .unknownCharset name => "unknown encoding: " ++ name
  | .notTextCharset name =>
      "'" ++ name ++ "' is not a text encoding; use codecs.open() to handle arbitrary codecs"
  | .nullInName => "embedded null character"
  | .nullInPath => "embedded null byte"
  | .noHome => "Could not determine home directory."
  | .linkLoop path => "Symlink loop from " ++ Text.quoted path
  | .yaml fault => fault.message
  | .emptyKeyword => "keyword must be a non-empty string"
  | .pathDropped => "expected str, bytes or os.PathLike object, not list"
  | .templateDropped => "'list' object has no attribute 'read_text'"
  | .channelEnded => "cannot push to a channel that has ended"
  | .writeAfterEnd => "write after end"
  | .caller _ message => message

/-- Does the failure come from the operating system, or is it of the same kind? -/
def isSystem : Failure → Bool
  | .refused _ => true
  | .rootNotFound _ => true
  | .rootNotDirectory _ => true
  | .caller .system _ => true
  | _ => false

/-- Is something missing, or no directory? -/
def isMissing : Failure → Bool
  | .refused refusal => refusal.fault = .notFound || refusal.fault = .notDirectory
  | .rootNotFound _ => true
  | .rootNotDirectory _ => true
  | _ => false

end Failure

end MarkupCatalog
