import Courier.Proofs.Pieces
import Courier.Proofs.Sending
import Courier.Proofs.Visibility

/-!
# What is delivered is seen

A message that is not blank goes to chat line by line, and the lines joined again are the message, with
its empty lines. A title goes out as it is, or else its two texts go to chat as far as there is something
in them. What counts as blank for the gate and what the senders leave out are different things, a text of
white space is one and not the other; still something is seen of every message that is sent.

* `Text.intercalate_lines`, `Text.length_lines`: nothing is lost when a text is cut into lines;
* `Text.exists_visible_line`: a visible text has a visible line;
* `Sender.chat_of_visible`, `Sender.title_of_shown`, `Sender.title_of_told`: what the senders deliver;
* `Sender.exists_visible_standard`: there is something to see in it;
* `delivered_as_rendered`: so it is for every message that is sent.
-/

namespace Courier

/-! ### Lines -/

namespace Text

/-- The lines of a text, joined again, are the text. -/
theorem intercalate_lines (s : String) : String.intercalate "\n" (lines s) = s :=
  intercalate_pieces '\n' s

theorem newline_not_mem_line {s line : String} (h : line ∈ lines s) : '\n' ∉ line.toList :=
  not_mem_piece h

theorem length_lines (s : String) : (lines s).length = s.toList.count '\n' + 1 := by
  rw [lines, List.length_map, length_splitOn]

/-- A visible text has a visible line, since line feeds are white space. -/
theorem exists_visible_line {s : String} (h : Visible s) : ∃ line ∈ lines s, Visible line := by
  obtain ⟨c, hmem, hc⟩ := h
  have hne : c ≠ '\n' := by
    rintro rfl
    revert hc
    decide
  obtain ⟨piece, hpiece, hmem⟩ := exists_mem_splitOn hmem hne
  exact ⟨String.ofList piece, List.mem_map_of_mem hpiece, c, by rwa [String.toList_ofList], hc⟩

theorem Visible.ne_empty {s : String} (h : Visible s) : s ≠ "" := by
  rintro rfl
  obtain ⟨c, hmem, -⟩ := h
  cases hmem

end Text

/-! ### What is seen of a delivery -/

/-- Something is seen of a delivery. -/
def Delivery.Visible : Delivery → Prop
  | .chat line => Text.Visible line
  | .title above below _ => Text.Visible above ∨ Text.Visible below

theorem Rendered.isBlankFor_title_eq_false_iff {r : Rendered} :
    r.isBlankFor .title = false ↔ Text.Visible r.title ∨ Text.Visible r.subtitle := by
  rw [Text.visible_iff, Text.visible_iff]
  exact Bool.and_eq_false_iff

namespace Sender

variable {recipient : Recipient} {record : Record} {rendered : Rendered}

theorem chat_of_visible (recipient : Recipient) (record : Record)
    (h : Text.Visible rendered.message) :
    chat recipient record rendered = (Text.lines rendered.message).map .chat := by
  rw [chat, String.isEmpty_eq_false_iff.2 h.ne_empty, if_neg Bool.false_ne_true]

/-- Who shows titles gets one, whatever is in it. -/
theorem title_of_shown (h : recipient.showsTitles = true) :
    title recipient record rendered = [.title rendered.title rendered.subtitle record.timing] :=
  if_pos h

/-- Everyone else gets what is not empty of the two texts as chat. -/
theorem title_of_told (h : recipient.showsTitles = false) :
    title recipient record rendered =
      ([rendered.title, rendered.subtitle].filter fun text => decide (text ≠ "")).map .chat := by
  rw [title, Recipient.deliverTitle, h, if_neg Bool.false_ne_true]
  refine congrArg _ (List.filter_congr fun text _ => ?_)
  by_cases hempty : text = "" <;> simp [hempty]

theorem exists_visible_told (h : Text.Visible rendered.title ∨ Text.Visible rendered.subtitle) :
    ∃ line ∈ [rendered.title, rendered.subtitle].filter fun text => decide (text ≠ ""),
      Text.Visible line := by
  rcases h with h | h
  · exact ⟨rendered.title, by simp [h.ne_empty], h⟩
  · exact ⟨rendered.subtitle, by simp [h.ne_empty], h⟩

/-- **There is something to see in what is delivered of a text that is not blank.** -/
theorem exists_visible_standard (h : rendered.isBlankFor record.channel = false) :
    ∃ delivery ∈ standard record.channel recipient record rendered, delivery.Visible := by
  cases hchannel : record.channel with
  | chat =>
    rw [hchannel] at h
    have hvisible : Text.Visible rendered.message := Text.visible_iff.2 h
    obtain ⟨line, hmem, hline⟩ := Text.exists_visible_line hvisible
    rw [standard, chat_of_visible recipient record hvisible]
    exact ⟨.chat line, List.mem_map_of_mem hmem, hline⟩
  | title =>
    rw [hchannel, Rendered.isBlankFor_title_eq_false_iff] at h
    rw [standard]
    cases hshows : recipient.showsTitles with
    | true =>
      rw [title_of_shown hshows]
      exact ⟨_, List.mem_singleton.2 rfl, h⟩
    | false =>
      obtain ⟨line, hmem, hline⟩ := exists_visible_told h
      rw [title_of_told hshows]
      exact ⟨.chat line, List.mem_map_of_mem hmem, hline⟩

end Sender

/-- **What is delivered is the rendered text, and it is seen.** Of a text that is not blank for its channel,
chat gets the lines, which hold no line feed, are the message when joined by line feeds, one more than it
has of them, and one of them visible. A title is shown with both texts and its timing where titles are
shown; elsewhere chat gets those of the two texts that are not empty, in their order and one of them
visible. So something is seen of every message that a pipeline with these senders sends. -/
theorem delivered_as_rendered :
    (∀ (recipient : Recipient) (record : Record) (rendered : Rendered),
      rendered.isBlankFor record.channel = false →
      (record.channel = .chat → ∃ lines : List String,
        Sender.standard record.channel recipient record rendered = lines.map .chat ∧
        (∀ line ∈ lines, '\n' ∉ line.toList) ∧
        String.intercalate "\n" lines = rendered.message ∧
        lines.length = rendered.message.toList.count '\n' + 1 ∧
        ∃ line ∈ lines, ∃ c ∈ line.toList, Text.isSpace c = false) ∧
      (record.channel = .title → recipient.showsTitles = true →
        Sender.standard record.channel recipient record rendered =
          [.title rendered.title rendered.subtitle record.timing]) ∧
      (record.channel = .title → recipient.showsTitles = false → ∃ lines : List String,
        Sender.standard record.channel recipient record rendered = lines.map .chat ∧
        lines = ([rendered.title, rendered.subtitle].filter fun text => decide (text ≠ "")) ∧
        ∃ line ∈ lines, ∃ c ∈ line.toList, Text.isSpace c = false)) ∧
    ∀ (p : Pipeline) (recipient : Recipient) (k : Key) (bind : Binder),
      p.senders = Sender.standard → (p.send recipient k bind).1.result = .ok .sent →
      ∃ delivery ∈ (p.send recipient k bind).1.deliveries, delivery.Visible := by
  refine ⟨fun recipient record rendered h => ⟨fun hchannel => ?_, fun hchannel hshows => ?_,
    fun hchannel hshows => ?_⟩, fun p recipient k bind hsenders hsent => ?_⟩
  · rw [hchannel] at h ⊢
    have hvisible : Text.Visible rendered.message := Text.visible_iff.2 h
    exact ⟨Text.lines rendered.message, Sender.chat_of_visible recipient record hvisible,
      fun line => Text.newline_not_mem_line, Text.intercalate_lines rendered.message,
      Text.length_lines rendered.message, Text.exists_visible_line hvisible⟩
  · rw [hchannel]
    exact Sender.title_of_shown hshows
  · rw [hchannel] at h ⊢
    exact ⟨_, Sender.title_of_told hshows, rfl,
      Sender.exists_visible_told (Rendered.isBlankFor_title_eq_false_iff.1 h)⟩
  · obtain ⟨record, context, hdeliverable⟩ := Pipeline.result_eq_sent_iff.1 hsent
    rw [Pipeline.send_of_deliverable hdeliverable, hsenders]
    exact Sender.exists_visible_standard hdeliverable.visible

/-- A message with blank and empty lines, and a title of a single wide space. -/
def greeting : Rendered :=
  { message := " \n\nHi\n", title := "\u3000", subtitle := "Alex" }

/-- A record for chat, and one for titles. -/
def chatRecord : Record := .blank tip.key

def titleRecord : Record := chatRecord.withTitle "" ""

/-- All lines of the message are delivered, and both texts of the title. -/
theorem greeting_delivered :
    greeting.isBlankFor chatRecord.channel = false ∧ greeting.isBlankFor titleRecord.channel = false ∧
    (∃ lines : List String,
      Sender.standard chatRecord.channel alex chatRecord greeting = lines.map .chat ∧
      String.intercalate "\n" lines = " \n\nHi\n" ∧ lines.length = 4 ∧
      ∃ line ∈ lines, ∃ c ∈ line.toList, Text.isSpace c = false) ∧
    Sender.standard titleRecord.channel { alex with showsTitles := true } titleRecord greeting =
      [.title "\u3000" "Alex" .standard] ∧
    (∃ lines : List String,
      Sender.standard titleRecord.channel alex titleRecord greeting = lines.map .chat ∧
      lines = ["\u3000", "Alex"] ∧ ∃ line ∈ lines, ∃ c ∈ line.toList, Text.isSpace c = false) ∧
    (Pipeline.withTip.send alex tip.key .ok).1.result = .ok .sent ∧
    ∃ delivery ∈ (Pipeline.withTip.send alex tip.key .ok).1.deliveries, delivery.Visible := by
  have hchat : greeting.isBlankFor chatRecord.channel = false := by decide +kernel
  have htitle : greeting.isBlankFor titleRecord.channel = false := by decide +kernel
  have hsent : (Pipeline.withTip.send alex tip.key .ok).1.result = .ok .sent :=
    Pipeline.result_eq_sent_iff.2 ⟨tip, .fresh alex tip.key,
      { found := by decide +kernel
        enabled := by decide
        ready := by decide +kernel
        bound := rfl
        visible := by decide +kernel }⟩
  obtain ⟨hdelivered, hseen⟩ := delivered_as_rendered
  obtain ⟨hlines, -, -⟩ := hdelivered alex chatRecord greeting hchat
  obtain ⟨-, hshown, -⟩ := hdelivered { alex with showsTitles := true } titleRecord greeting htitle
  obtain ⟨-, -, htold⟩ := hdelivered alex titleRecord greeting htitle
  obtain ⟨lines, hstandard, -, hjoined, hlength, hvisible⟩ := hlines rfl
  obtain ⟨told, hstandard', htexts, hvisible'⟩ := htold rfl rfl
  refine ⟨hchat, htitle, ⟨lines, hstandard, hjoined, ?_, hvisible⟩, hshown rfl rfl,
    ⟨told, hstandard', ?_, hvisible'⟩, hsent, hseen _ _ _ _ rfl hsent⟩
  · rw [hlength]
    decide +kernel
  · rw [htexts]
    decide +kernel

end Courier
