import Chatline.Text.Quoted
import Chatline.Text.Utf8

namespace Chatline

-- What the file system may object to. The numbers are those that the system itself reports.
inductive FileFault
  | notFound
  | exists
  | notDirectory
  | isDirectory
  | nameTooLong
  deriving DecidableEq, Repr

namespace FileFault

def number : FileFault → Nat
  | notFound     => 2
  | .exists      => 17
  | notDirectory => 20
  | isDirectory  => 21
  | nameTooLong  => 36

def reason : FileFault → String
  | notFound     => "No such file or directory"
  | .exists      => "File exists"
  | notDirectory => "Not a directory"
  | isDirectory  => "Is a directory"
  | nameTooLong  => "File name too long"

end FileFault

inductive Failure
  -- A lookup, an observer or the chat line itself gave up, for a reason of its own.
  | raised (reason : String)
  -- An event's payload lacks an entry that its observer needs.
  | missingEntry (key : String)
  -- An entry is there, but it is not of the kind that its observer needs.
  | wrongEntry (key : String)
  -- A provider was asked for something that providers of its kind do not know.
  | unsupported (request : String)
  | unknownPlaceholder (spelling : String)
  | unknownLogFormat (name : String)
  -- A script refers to something that it has not introduced.
  | unknownName (name : String)
  | file (fault : FileFault) (path : String)
  | nulInPath
  -- A numeral in some base is not written like one.
  | notInteger (base : Nat) (text : List Text.CodePoint)
  | notFloat (text : List Text.CodePoint)
  -- A word stands for no truth value.
  | unknownWord (word : List Text.CodePoint)
  -- A number has more digits than are read or written. When one is read, their number is known.
  | tooManyDigits (count : Option Nat)
  -- A date, a time or a code point that does not exist.
  | outOfRange (reason : String)
  -- A number that is too large for what it is to be turned into.
  | overflow (reason : String)
  | emptyNumeral
  | notTimestamp
  -- A timestamp is spelled by a map.
  | timestampMap
  -- The bytes of a file are not UTF-8.
  | notText (flaw : Text.Utf8.Flaw)
  -- An observer acted at a greater nesting depth than the host allows.
  | tooDeep
  deriving DecidableEq, Repr

namespace Failure

def digitLimit : Nat := 4300

def message : Failure → String
  | raised reason               => reason
  | missingEntry key            => Text.quoted key
  | wrongEntry key              => s!"unexpected entry {Text.quoted key}"
  | unsupported request         => s!"unsupported request {Text.quoted request}"
  | unknownPlaceholder spelling => s!"{Text.quoted spelling} is not a valid Placeholder"
  | unknownLogFormat name       => Text.quoted name
  | unknownName name            => Text.quoted name
  | file fault path             => s!"[Errno {fault.number}] {fault.reason}: {Text.quoted path}"
  | nulInPath                   => "embedded null byte"
  | notInteger base text        =>
    let start := String.ofList ((Text.quotedPoints text).toList.take 200)
    s!"invalid literal for int() with base {base}: {start}"
  | notFloat text               => s!"could not convert string to float: {Text.quotedPoints text}"
  | unknownWord word            => Text.quotedPoints word
  | tooManyDigits count         =>
    let value := (count.map fun n => s!": value has {n} digits").getD ""
    s!"Exceeds the limit ({digitLimit} digits) for integer string conversion{value}; " ++
      "use sys.set_int_max_str_digits() to increase the limit"
  | outOfRange reason           => reason
  | overflow reason             => reason
  | emptyNumeral                => "string index out of range"
  | notTimestamp                => "'NoneType' object has no attribute 'groupdict'"
  | timestampMap                => "expected string or bytes-like object, got 'list'"
  | notText flaw                => flaw.message
  | tooDeep                     => "maximum recursion depth exceeded"

end Failure
end Chatline
