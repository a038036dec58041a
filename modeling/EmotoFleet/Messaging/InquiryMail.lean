import EmotoFleet.Foundations.Markup

/-!
# The mail of a contact inquiry

The public contact form is open to everyone, and what it was given is sent to the staff as a
document with markup. Whatever the fields say, the mail has the tags of its template, and its
reader sees the fields letter by letter.

The answer of the mail provider is a parameter, and logging is left out.
-/

namespace EmotoFleet.InquiryMail

open Markup

/-- What the form was given. -/
structure ContactInquiry where
  name : Letters
  email : Letters
  category : Letters
  message : Letters

/-- The fields of the form. -/
inductive Field where
  | name
  | email
  | category
  | message

/-- What each field was given. -/
def ContactInquiry.field (dto : ContactInquiry) : Field → Letters
  | .name => dto.name
  | .email => dto.email
  | .category => dto.category
  | .message => dto.message

/-- `text.replace` with a pattern of one letter that is replaced everywhere. -/
def replaceAll (letter : Char) (replacement text : Letters) : Letters :=
  text.flatMap fun other => if other = letter then replacement else [other]

/-- The ampersand comes first, since the other replacements contain one. -/
def escapeHtml (text : Letters) : Letters :=
  let text := replaceAll '&' "&amp;".toList text
  let text := replaceAll '<' "&lt;".toList text
  let text := replaceAll '>' "&gt;".toList text
  let text := replaceAll doubleQuote "&quot;".toList text
  replaceAll singleQuote "&#039;".toList text

/-- The lines of the template. -/
def written (lines : List String) : Letters := lines.flatMap String.toList

/-- The document, with a hole for every field that is put into it. -/
def template : List (Piece Field) := [
  .literal <| written [
    "\n",
    "      <div style=\"font-family: Arial, sans-serif; max-width: 600px; margin: 0 auto; ",
    "padding: 20px; border: 1px solid #e0e0e0; border-radius: 8px;\">\n",
    "        <h2 style=\"color: #2e7d32; border-bottom: 2px solid #2e7d32; ",
    "padding-bottom: 10px; margin-top: 0;\">New Fleet OS Inquiry</h2>\n",
    "        <table style=\"width: 100%; border-collapse: collapse; margin-top: 15px;\">\n",
    "          <tr>\n",
    "            <td style=\"padding: 8px 0; font-weight: bold; width: ",
    "100px;\">Name:</td>\n",
    "            <td style=\"padding: 8px 0;\">"],
  .hole .name,
  .literal <| written [
    "</td>\n",
    "          </tr>\n",
    "          <tr>\n",
    "            <td style=\"padding: 8px 0; font-weight: bold;\">Email:</td>\n",
    "            <td style=\"padding: 8px 0;\"><a href=\"mailto:"],
  .hole .email,
  .literal <| written [
    "\">"],
  .hole .email,
  .literal <| written [
    "</a></td>\n",
    "          </tr>\n",
    "          <tr>\n",
    "            <td style=\"padding: 8px 0; font-weight: bold;\">Category:</td>\n",
    "            <td style=\"padding: 8px 0; text-transform: capitalize;\">"],
  .hole .category,
  .literal <| written [
    "</td>\n",
    "          </tr>\n",
    "        </table>\n",
    "        <div style=\"margin-top: 20px; padding: 15px; background-color: #f9f9f9; ",
    "border-radius: 4px; border-left: 4px solid #2e7d32;\">\n",
    "          <h4 style=\"margin-top: 0; margin-bottom: 8px; color: ",
    "#333;\">Message:</h4>\n",
    "          <p style=\"margin: 0; white-space: pre-wrap; color: #555; line-height: ",
    "1.5;\">"],
  .hole .message,
  .literal <| written [
    "</p>\n",
    "        </div>\n",
    "        <hr style=\"border: 0; border-top: 1px solid #eee; margin: 20px 0;\" />\n",
    "        <p style=\"font-size: 12px; color: #999; margin: 0; text-align: ",
    "center;\">This inquiry was submitted via the contact form on emotofleet.com.</p>\n",
    "      </div>\n",
    "    "]]

/-- A mail as the provider gets it. -/
structure Mail where
  recipient : String
  subject : Letters
  html : Letters

/-- The mail of an inquiry. -/
def inquiryMail (dto : ContactInquiry) : Mail where
  recipient := "bruno@emotofleet.com"
  subject := "eMoto Contact Inquiry: ".toList ++ escapeHtml dto.category ++ " - from ".toList ++
    escapeHtml dto.name
  html := fill (fun field => escapeHtml (dto.field field)) template

/-- What the visitor is told. -/
structure Response where
  success : Bool
  message : String

/-- `sendMail` answers whether the mail was taken. -/
def sendContactInquiry (sendMail : Mail → Bool) (dto : ContactInquiry) :
    Except String Response :=
  if sendMail (inquiryMail dto) then
    .ok ⟨true, "Inquiry submitted and email notification sent successfully"⟩
  else .error "Failed to send email notification"

/-! ## The replacements -/

/-- Letters are replaced one by one. -/
theorem replaceAll_append (letter : Char) (replacement first second : Letters) :
    replaceAll letter replacement (first ++ second) =
      replaceAll letter replacement first ++ replaceAll letter replacement second :=
  List.flatMap_append

/-- Other letters are left. -/
theorem replaceAll_other {letter other : Char} (different : other ≠ letter)
    (replacement : Letters) : replaceAll letter replacement [other] = [other] := by
  rw [replaceAll, List.flatMap_singleton, if_neg different]

/-- Letters are escaped one by one. -/
theorem escapeHtml_append (first second : Letters) :
    escapeHtml (first ++ second) = escapeHtml first ++ escapeHtml second := by
  simp only [escapeHtml, replaceAll_append]

/-- An ordinary letter is its own reference. -/
theorem reference_of_ordinary {letter : Char} (amp : letter ≠ '&') (lt : letter ≠ '<')
    (gt : letter ≠ '>') (double : letter ≠ doubleQuote) (single : letter ≠ singleQuote) :
    reference letter = [letter] := by
  simp only [reference, references, List.lookup_cons, List.lookup_nil, beq_false_of_ne amp,
    beq_false_of_ne lt, beq_false_of_ne gt, beq_false_of_ne double, beq_false_of_ne single]

/-- One letter after the other replacement, it is written as its reference. -/
theorem escapeHtml_singleton (letter : Char) : escapeHtml [letter] = reference letter := by
  by_cases amp : letter = '&'
  · subst amp
    rfl
  by_cases lt : letter = '<'
  · subst lt
    rfl
  by_cases gt : letter = '>'
  · subst gt
    rfl
  by_cases double : letter = doubleQuote
  · subst double
    rfl
  by_cases single : letter = singleQuote
  · subst single
    rfl
  rw [reference_of_ordinary amp lt gt double single, escapeHtml]
  simp only [replaceAll_other amp, replaceAll_other lt, replaceAll_other gt,
    replaceAll_other double, replaceAll_other single]

/-- The five replacements one after another write every special letter as its reference,
once. -/
theorem escapeHtml_eq_escape (text : Letters) : escapeHtml text = escape text := by
  induction text with
  | nil => rfl
  | cons letter rest inductionHypothesis =>
    rw [← List.singleton_append, escapeHtml_append, escapeHtml_singleton, inductionHypothesis]
    rfl

/-! ## The document -/

/-- A line is written with its letters, whose bytes need not be read for it. -/
theorem written_cons (letters : Letters) (lines : List String) :
    written (String.ofList letters :: lines) = letters ++ written lines := by
  rw [written, List.flatMap_cons, String.toList_ofList]
  rfl

/-- Without lines nothing is written. -/
theorem written_nil : written [] = [] := rfl

/-- The holes of the template are in its text. -/
theorem template_wellPlaced : wellPlaced .text template = true := by
  rw [template]
  repeat rw [written_cons]
  simp only [written_nil]
  decide +kernel

/-- The mail is the template with the escaped fields. -/
theorem html_eq_fill (dto : ContactInquiry) :
    (inquiryMail dto).html = fill (fun field => escape (dto.field field)) template := by
  simp only [inquiryMail, escapeHtml_eq_escape]

/-- No inquiry puts a tag into the mail or takes one from it, or an attribute, and every field is
read as it was sent, in the running text and in the address of the link. -/
theorem inquiry_reads_as_sent (dto : ContactInquiry) (kind : Place) :
    skeleton .text (inquiryMail dto).html = outline .text template ∧
      decode (contents kind .text (inquiryMail dto).html) =
        shown dto.field kind .text template := by
  rw [html_eq_fill]
  exact ⟨skeleton_fill template_wellPlaced, decode_fill template_wellPlaced⟩

end EmotoFleet.InquiryMail
