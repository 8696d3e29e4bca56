import WalletRelay.Url.Percent

/-!
# Paths of URLs

A path is a list of segments, each of which stands behind a slash. Segments of one dot are dropped and
segments of two dots take the segment before them away; either leaves an empty segment at the end of a
path. The dots may be percent-encoded. A segment that names a drive is never taken away.
-/

namespace WalletRelay.Url

/-- A segment that stands for itself, for the path so far, or for what is one step up. -/
inductive SegmentKind where
  | name
  | here
  | up
deriving DecidableEq, Repr

def segmentKind (segment : List Char) : SegmentKind :=
  match (segment.map Char.toLower) with
  | ['.'] => .here
  | ['%', '2', 'e'] => .here
  | ['.', '.'] => .up
  | ['.', '%', '2', 'e'] => .up
  | ['%', '2', 'e', '.'] => .up
  | ['%', '2', 'e', '%', '2', 'e'] => .up
  | _ => .name

/-- Whether a segment begins with the name of a drive, a letter and a colon or bar, and has nothing or a
backslash behind it. -/
def beginsWithDrive : List Char → Bool
  | letter :: mark :: rest =>
    letter.isAlpha && (mark = ':' || mark = '|') && (rest.isEmpty || rest.head? == some '\\')
  | _ => false

def isDrive (segment : List Char) : Bool :=
  segment.length == 2 && beginsWithDrive segment

def writeDrive (segment : List Char) : List Char :=
  segment.take 1 ++ [':']

/-- Take the last segment away, unless it begins with the name of a drive. -/
def dropLastSegment (segments : List (List Char)) : List (List Char) :=
  if segments.getLast?.any beginsWithDrive then segments else segments.dropLast

structure PathRead where
  segments : List (List Char)
  /-- Whether it is a path of files that starts with the name of a drive. -/
  isOnDrive : Bool

/-- Append a segment to a path; `isLast` says that no other follows. -/
def PathRead.append (isFile : Bool) (path : PathRead) (segment : List Char) (isLast : Bool) : PathRead :=
  let tail : List (List Char) := if isLast then [[]] else []
  match segmentKind segment with
  | .up => { path with segments := dropLastSegment path.segments ++ tail }
  | .here => { path with segments := path.segments ++ tail }
  | .name =>
    if isFile && path.segments.isEmpty && isDrive segment then ⟨[writeDrive segment], true⟩
    else { path with segments := path.segments ++ [segment] }

/-- Append segments to a path one after another. -/
def PathRead.appendAll (isFile : Bool) : PathRead → List (List Char) → PathRead
  | path, [] => path
  | path, segment :: rest => appendAll isFile (path.append isFile segment rest.isEmpty) rest

def readSegments (isFile : Bool) (segments : List (List Char)) : PathRead :=
  PathRead.appendAll isFile ⟨[], false⟩ segments

/-- Segments with a slash before each. -/
def pathText (segments : List (List Char)) : List Char :=
  segments.flatMap ('/' :: ·)

end WalletRelay.Url
