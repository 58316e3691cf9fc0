/-
LamcoRdp/Clipboard/Conversion.lean

What a client's clipboard answer becomes on the Linux side, and which RDP format is
asked for.

The format tables, the image and text codecs and the parser of file lists belong to
the clipboard libraries; they are the fields of `ClipboardCore`.  Here are the
choices that the server makes around them: the format of a MIME type
(`lookup_format_id_for_mime`), the conversion of an answer for the MIME type that
was asked for (`portalData`), and the files of a file list, which are answered as
URIs of the paths that the file transfer backend gives out.
-/
import LamcoRdp.Clipboard.Fuse

namespace LamcoRdp

/-- MIME types are compared as texts. -/
abbrev Mime := String

/-- `starts_with`. -/
def startsWith (mime start : String) : Bool := start.toList.isPrefixOf mime.toList

/-- A clipboard format: its number and, for a registered one, its name. -/
structure ClipboardFormat where
  id : UInt32
  name : Option String
  deriving DecidableEq, Repr

/-- A file of the client's file list. -/
structure RemoteFile where
  name : String
  size : Option ℕ
  deriving DecidableEq, Repr

/-- The clipboard libraries, with the text decoding of `handle_rdp_data_response`:
`none` is an error. -/
structure ClipboardCore where
  rdpFormatToMime : UInt32 → Option Mime
  formatNameToMime : String → Option Mime
  mimeToFormatId : Mime → Option UInt32
  rdpToMimeTypes : List ClipboardFormat → Option (List Mime)
  dibv5ToPng : Bytes → Option Bytes
  dibToPng : Bytes → Option Bytes
  dibv5ToJpeg : Bytes → Option Bytes
  dibToJpeg : Bytes → Option Bytes
  dibToBmp : Bytes → Option Bytes
  /-- RTF with Linux line endings -/
  rtfText : Bytes → Bytes
  /-- `decode_rdp_text_payload`, sanitized -/
  decodeText : Bytes → Mime → Bytes
  /-- `FileDescriptor::parse_list` -/
  parseList : Bytes → Option (List RemoteFile)
  sanitizeFilename : String → String
  encodeFileUri : String → String

/-- Libraries that know no format and leave contents and names as they are. -/
def ClipboardCore.plain : ClipboardCore where
  rdpFormatToMime _ := none
  formatNameToMime _ := none
  mimeToFormatId _ := none
  rdpToMimeTypes _ := none
  dibv5ToPng _ := none
  dibToPng _ := none
  dibv5ToJpeg _ := none
  dibToJpeg _ := none
  dibToBmp _ := none
  rtfText bytes := bytes
  decodeText bytes _ := bytes
  parseList _ := none
  sanitizeFilename name := name
  encodeFileUri path := "file://" ++ path

variable (core : ClipboardCore)

/-! ### Formats -/

/-- CF_UNICODETEXT. -/
def cfUnicodeText : UInt32 := 13

/-- CF_TEXT. -/
def cfText : UInt32 := 1

/-- The MIME type of a list of files. -/
def uriListMime : Mime := "text/uri-list"

/-- The same for the file manager of GNOME. -/
def gnomeFilesMime : Mime := "x-special/gnome-copied-files"

/-- The MIME types under which files are pasted. -/
def isFileMime (mime : Mime) : Bool := mime = uriListMime || mime = gnomeFilesMime

/-- `lookup_format_id_for_mime`. -/
def lookupFormatIdForMime (formats : List ClipboardFormat) (mime : Mime) : Option UInt32 :=
  let text : Bool := mime = "text/plain;charset=utf-8" || mime = "text/plain"
  if text && formats.any (·.id = cfUnicodeText) then some cfUnicodeText
  else if text && formats.any (·.id = cfText) then some cfText
  else formats.findSome? fun format =>
    if core.rdpFormatToMime format.id = some mime then some format.id
    else match format.name.bind core.formatNameToMime with
      | some mapped =>
          -- the two file MIME types stand for one RDP format
          if mapped = mime || (mapped = uriListMime && mime = gnomeFilesMime) then some format.id
          else none
      | none => none

/-- The format that `handle_portal_data_request` asks for: of the client's list, or
else of the static table. -/
def formatIdForMime (formats : List ClipboardFormat) (mime : Mime) : Option UInt32 :=
  (lookupFormatIdForMime core formats mime).or (core.mimeToFormatId mime)

/-! ### Data -/

/-- The header size of a bitmap: its first four bytes, little endian. -/
def headerSize : Bytes → Option ℕ
  | a :: b :: c :: d :: _ =>
      some (a.toNat + 256 * (b.toNat + 256 * (c.toNat + 256 * d.toNat)))
  | _ => none

/-- The data delivered for a MIME type, `none` where the conversion fails. -/
def portalData (mime : Mime) (data : Bytes) : Option Bytes :=
  if startsWith mime "image/png" then
    match headerSize data with
    | some 124 => core.dibv5ToPng data
    | some 40 => core.dibToPng data
    | some _ => core.dibv5ToPng data
    -- too small for a bitmap header
    | none => none
  else if startsWith mime "image/jpeg" then
    match headerSize data with
    | some 124 => core.dibv5ToJpeg data
    | some _ => core.dibToJpeg data
    | none => none
  else if startsWith mime "image/bmp" || startsWith mime "image/x-bmp" then core.dibToBmp data
  else if mime = "text/rtf" || mime = "application/rtf" then some (core.rtfText data)
  else if (startsWith mime "text/plain" || startsWith mime "text/html") && 2 ≤ data.length then
    some (core.decodeText data mime)
  else some data

/-! ### Files -/

/-- The two backends; FUSE has a mount point. -/
inductive FileTransferBackend
  | fuse (mountPoint : String)
  | staging
  deriving DecidableEq, Repr

/-- What the file transfer backend is told about a file. -/
structure TransferFileDescriptor where
  filename : String
  size : ℕ
  fileIndex : ℕ
  clipDataId : ℕ
  deriving DecidableEq, Repr

/-- The answer of `prepare_files`: the paths are there, they come later, or not at all. -/
inductive PrepareResult
  | ready (paths : List String)
  | pending
  | failed
  deriving DecidableEq, Repr

/-- The descriptors of the client's files, with sanitized names and the size 0 for one unknown.
-/
def transferDescriptors (files : List RemoteFile) (clipDataId : ℕ) :
    List TransferFileDescriptor :=
  files.mapIdx fun index file =>
    { filename := core.sanitizeFilename file.name, size := file.size.getD 0,
      fileIndex := index % 2 ^ 32, clipDataId := clipDataId }

/-- The paths that `FuseMount::set_files` returns. -/
def fusePaths (mountPoint : String) (descriptors : List TransferFileDescriptor) : List String :=
  descriptors.map fun descriptor => mountPoint ++ "/" ++ descriptor.filename

/-- `prepare_files`: `available` says that FUSE is mounted, or that the download
directory can be made.  Neither backend returns an error of its own. -/
def FileTransferBackend.prepareFiles (backend : FileTransferBackend) (available : Bool)
    (descriptors : List TransferFileDescriptor) : PrepareResult :=
  match backend, available with
  | _, false => .failed
  | .fuse mountPoint, true =>
      if descriptors = [] then .failed else .ready (fusePaths mountPoint descriptors)
  | .staging, true => .pending

/-- Only FUSE has files ready, under its mount point. -/
theorem prepareFiles_ready {backend : FileTransferBackend} {available : Bool}
    {descriptors : List TransferFileDescriptor} {paths : List String}
    (h : backend.prepareFiles available descriptors = .ready paths) :
    ∃ mountPoint, backend = .fuse mountPoint ∧ fusePaths mountPoint descriptors = paths := by
  cases backend with
  | staging => cases available <;> simp [FileTransferBackend.prepareFiles] at h
  | fuse mountPoint =>
      refine ⟨mountPoint, rfl, ?_⟩
      cases available with
      | false => simp [FileTransferBackend.prepareFiles] at h
      | true =>
          simp only [FileTransferBackend.prepareFiles] at h
          split at h
          · cases h
          · exact PrepareResult.ready.inj h

/-- `generate_uri_list_content`. -/
def generateUriListContent (paths : List String) : String :=
  String.join (paths.map fun path => core.encodeFileUri path ++ "\r\n")

/-- `generate_gnome_copied_files_content`. -/
def generateGnomeCopiedFilesContent (paths : List String) : String :=
  "copy\n" ++ "\n".intercalate (paths.map core.encodeFileUri) ++ "\x00"

/-- `content_for`. -/
def contentFor (paths : List String) (mime : Mime) : Option Bytes :=
  if mime = uriListMime then some (generateUriListContent core paths).toUTF8.toList
  else if mime = gnomeFilesMime then
    some (generateGnomeCopiedFilesContent core paths).toUTF8.toList
  else none

theorem contentFor_of_isFileMime {mime : Mime} (h : isFileMime mime = true) (paths : List String) :
    ∃ bytes, contentFor core paths mime = some bytes := by
  rcases (Bool.or_eq_true _ _).mp h with h | h
  · exact ⟨_, if_pos (of_decide_eq_true h)⟩
  · by_cases hu : mime = uriListMime
    · exact ⟨_, if_pos hu⟩
    · refine ⟨_, (if_neg hu).trans (if_pos (of_decide_eq_true h))⟩

/-- The clipboard data id plays no part in the paths. -/
theorem fusePaths_transferDescriptors (mountPoint : String) (files : List RemoteFile) (n m : ℕ) :
    fusePaths mountPoint (transferDescriptors core files n)
      = fusePaths mountPoint (transferDescriptors core files m) := by
  apply List.ext_getElem?
  intro i
  simp only [fusePaths, transferDescriptors, List.getElem?_map, List.getElem?_mapIdx]
  cases files[i]? <;> rfl

/-! ### Answers -/

/-- An answer with data, as it reaches the orchestrator: bytes, or the file list
that the protocol library has read out of them. -/
inductive ClientAnswer
  | data (bytes : Bytes)
  | fileList (files : List RemoteFile)
  deriving DecidableEq, Repr

/-- The files of bytes that were asked for under a MIME type. -/
def filesOf (mime : Mime) (bytes : Bytes) : Option (List RemoteFile) :=
  if isFileMime mime then core.parseList bytes else none

/-- What files become for a MIME type. -/
def FileTransferBackend.fileContent (backend : FileTransferBackend) (mime : Mime)
    (files : List RemoteFile) : Option Bytes :=
  match backend with
  | .fuse mountPoint =>
      contentFor core (fusePaths mountPoint (transferDescriptors core files 1)) mime
  | .staging => none

/-- What an answer becomes for a MIME type. -/
def ClientAnswer.converted (backend : FileTransferBackend) (mime : Mime) :
    ClientAnswer → Option Bytes
  | .data bytes =>
      match filesOf core mime bytes with
      | some files => backend.fileContent core mime files
      | none => portalData core mime bytes
  | .fileList files => backend.fileContent core mime files

variable {core} {mime : Mime} {bytes : Bytes} {files : List RemoteFile}

/-- Files are read out of bytes that were asked for under a file MIME type. -/
theorem filesOf_eq_some (h : filesOf core mime bytes = some files) :
    isFileMime mime = true ∧ core.parseList bytes = some files :=
  Option.ite_none_right_eq_some.mp h

/-- Bytes that hold files hold the same ones for either file MIME type. -/
theorem ClientAnswer.converted_of_filesOf {mime' : Mime} (h : filesOf core mime bytes = some files)
    (hmime : isFileMime mime' = true) (mountPoint : String) :
    (ClientAnswer.data bytes).converted core (.fuse mountPoint) mime'
      = contentFor core (fusePaths mountPoint (transferDescriptors core files 1)) mime' := by
  have hfiles : filesOf core mime' bytes = some files := by
    rw [filesOf, if_pos hmime]
    exact (filesOf_eq_some h).2
  simp only [ClientAnswer.converted, hfiles, FileTransferBackend.fileContent]

end LamcoRdp
