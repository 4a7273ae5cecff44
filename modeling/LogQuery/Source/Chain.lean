import LogQuery.Compression.Bzip2
import LogQuery.Compression.Gzip
import LogQuery.Source.Catalog
import LogQuery.Source.Hourly
import LogQuery.Text.ControlPicture

/-! Chains of files: what is read, one file behind the other, for a category. -/

set_option autoImplicit false

namespace LogQuery

def Packing.unpack (packing : Packing) (stream : ByteStream) : ByteStream :=
  let expand (expander : List UInt8 → ByteStream) : ByteStream :=
    match stream.readAll with
    | (bytes, none) => expander bytes
    | (_, some failure) => [.failure failure]
  match packing with
  | .plain => stream
  | .gzip => expand Compression.Gzip.expand
  | .bzip2 => expand Compression.Bzip2.expand

def Failure.at (failure : Failure) (name : String) : Failure :=
  { failure with message := s!"{failure.message}: {name}" }

def RotatedFile.openOn (file : RotatedFile) (disk : Disk) : Except Failure ByteStream :=
  match disk.openFile file.path with
  | .ok stream => .ok (file.packing.unpack stream)
  | .error failure => .error (failure.at (Text.quoted file.path))

inductive Chain where
  | rotated (files : List RotatedFile)
  | hourly (directory category : String)
  | direct (content : ByteStream)

namespace Chain

def openIfPresent (disk : Disk) (path : String) : Except Failure (Option ByteStream) :=
  match disk.openFile path with
  | .ok stream => .ok (some stream)
  | .error failure =>
    if failure.kind == .notFound then .ok none else .error (failure.at (Text.quotedPath path))

def openHour (disk : Disk) (path : String) : Except Failure (Option ByteStream) := do
  match ← openIfPresent disk path with
  | some stream => return some stream
  | none => return (← openIfPresent disk (path ++ ".gz")).map Packing.gzip.unpack

/-- Opens hourly files one by one: those that are missing, as far as it comes, and the streams, or
why one cannot be opened. What came before is given last first. -/
def openHours (disk : Disk) (missing : List String) (streams : List ByteStream) :
    List String → List String × Except Failure (List ByteStream)
  | [] => (missing.reverse, .ok streams.reverse)
  | path :: paths =>
    match openHour disk path with
    | .ok (some stream) => openHours disk missing (stream :: streams) paths
    | .ok none => openHours disk (path :: missing) streams paths
    | .error failure => (missing.reverse, .error failure)

/-- Opens what a chain has for a window, one stream behind the other, and tells which hourly files
are missing. Rotated files are opened all, since only reading them tells their times. -/
def openFor (chain : Chain) (disk : Disk) (window : Time.Window) :
    List String × Except Failure ByteStream :=
  match chain with
  | .rotated files =>
    ([], (files.mapM fun (file : RotatedFile) => file.openOn disk).map List.flatten)
  | .hourly directory category =>
    let paths := (Hourly.hoursOf window).map (Hourly.filePath directory category)
    let (missing, opened) := openHours disk [] [] paths
    (missing, opened.map List.flatten)
  | .direct content => ([], .ok content)

def paths (chain : Chain) (window : Time.Window) : List String :=
  match chain with
  | .rotated files => files.map (·.path)
  | .hourly directory category =>
    (Hourly.hoursOf window).flatMap fun hour =>
      let path := Hourly.filePath directory category hour
      [path, path ++ ".gz"]
  | .direct _ => []

def missingText (path : String) : String := s!"log file not found {Text.quotedPath path}"

end Chain

end LogQuery
