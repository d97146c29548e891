import OpenClipboard.Core.Text

/-!
# MIME types and their semantic classes

`MimeType` is an unvalidated string; every routing decision compares its
essence (lowercased `type/subtype`, parameters dropped) through `MimeClass`.
-/

namespace OpenClipboard

open Text

structure MimeType where
  asStr : String
  deriving DecidableEq, Repr

inductive ImageKind where
  | png
  | jpeg
  | tiff
  | gif
  | webp
  | bmp
  | other
  deriving DecidableEq, Repr

inductive MimeClass where
  | textPlain
  | textHtml
  | textRtf
  | textMarkdown
  | uriList
  | textLink
  | textOther
  | image (kind : ImageKind)
  | octetStream
  | unrecognized
  deriving DecidableEq, Repr

def MimeClass.fromEssence (essence : String) : MimeClass :=
  if essence = "text/plain" then .textPlain
  else if essence = "text/html" then .textHtml
  else if essence = "text/rtf" ∨ essence = "application/rtf" then .textRtf
  else if essence = "text/markdown" then .textMarkdown
  else if essence = "text/uri-list" ∨ essence = "file/uri-list" then .uriList
  else if essence = "text/x-uri" ∨ essence = "text/x-url" ∨
      essence = "text/uri" then .textLink
  else if essence = "application/octet-stream" then .octetStream
  else if essence = "image/png" then .image .png
  else if essence = "image/jpeg" ∨ essence = "image/jpg" then .image .jpeg
  else if essence = "image/tiff" ∨ essence = "image/tif" then .image .tiff
  else if essence = "image/gif" then .image .gif
  else if essence = "image/webp" then .image .webp
  else if essence = "image/bmp" ∨ essence = "image/x-bmp" then .image .bmp
  else if startsWith essence "image/" then .image .other
  else if startsWith essence "text/" then .textOther
  else .unrecognized

namespace MimeType

def uriList : MimeType := ⟨"text/uri-list"⟩

/-- The `type/subtype` part, trimmed and lowercased, parameters discarded. -/
def essence (mime : MimeType) : String :=
  toAsciiLowercase (trim ((split mime.asStr ';').headD ""))

def classify (mime : MimeType) : MimeClass :=
  MimeClass.fromEssence mime.essence

def isTextPlain (mime : MimeType) : Bool :=
  mime.classify == .textPlain

def isTextHtml (mime : MimeType) : Bool :=
  mime.classify == .textHtml

def isTextRtf (mime : MimeType) : Bool :=
  mime.classify == .textRtf

def isUriList (mime : MimeType) : Bool :=
  mime.classify == .uriList

def isImage (mime : MimeType) : Bool :=
  match mime.classify with
  | .image _ => true
  | _ => false

/-- Exactly one `/`, both sides non-empty, and no `public.` subtype. -/
def isRfcShape (mime : MimeType) : Bool :=
  match (trimChars mime.asStr.toList).splitOn '/' with
  | [type, subtype] =>
      !type.isEmpty && !subtype.isEmpty &&
        !startsWith (toAsciiLowercase (String.ofList subtype)) "public."
  | _ => false

end MimeType

/-- A `mime` string from an untrusted boundary is kept only in RFC shape. -/
def normalizeWireMime (raw : Option String) : Option MimeType :=
  raw.bind fun candidate =>
    if (MimeType.mk candidate).isRfcShape then some ⟨candidate⟩ else none

example : (MimeType.mk "  Text/Plain ; charset = utf-8 ").isTextPlain = true := by
  decide

end OpenClipboard
