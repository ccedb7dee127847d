import Manuscript.Latex.Directive
import Manuscript.Options.Any
import Manuscript.Text.LetterCase

/-!
Images by the extension of their address: pictures become figures, bibliographies and data files are
attachments and leave no trace, and anything else is refused or, if the options say so, skipped with
a warning.
-/

namespace Manuscript.Latex

/-- What follows the last dot; the whole text when there is none. -/
def afterLastDot (cs : List Char) : List Char := (cs.reverse.takeWhile (· != '.')).reverse

/-- The extension of an address, in small letters. -/
def imageExtension (url : String) : String :=
  Text.toLower (String.ofList (afterLastDot url.toList))

def isPicture (extension : String) : Bool :=
  extension == "png" || extension == "jpg" || extension == "jpeg"

def isAttachment (extension : String) : Bool := extension == "bib" || extension == "csv"

/-- The figure around a picture. -/
def picture (width : Value) (url altText : String) : String :=
  command "begin" "figure" ++ "\n\\centering\n\\includegraphics[width=" ++ width.text
    ++ "]\x7b" ++ url
    ++ "\x7d\n" ++ (if altText.isEmpty then "" else command "caption" altText ++ "\n")
    ++ command "end" "figure" ++ "\n"

/-- The LaTeX of an image. -/
def image (o : RendererOptions) (url altText : String) : Run String :=
  let extension := imageExtension url
  if isAttachment extension then Run.pure ""
  else if isPicture extension then Run.pure (picture o.imageWidth url altText)
  else match o.imageMode with
    | .skip =>
      ⟨.ok "", [.warning .directives
        s!"Skipping image with unsupported extension {Text.quoted extension}: {url}"]⟩
    | .error => Run.fault (.unsupportedImage url extension)

/-- The LaTeX of an image under options of any stage; those of another stage say nothing about
pictures. -/
def imageUnder (o : Option AnyOptions) (url altText : String) : Run String :=
  match o with
  | none => image {} url altText
  | some (.renderer r) => image r url altText
  | some _ =>
    if isAttachment (imageExtension url) then Run.pure ""
    else Run.fail (.breakdown .missingAttribute)

end Manuscript.Latex
