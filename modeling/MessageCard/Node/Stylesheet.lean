/-!
The stylesheet of a card: rules for the style classes of its nodes.
-/

namespace MessageCard.Style

/-- The lines of the stylesheet. -/
def sheetLines : List String := [
  ".lark-card \x7b",
  "  background: #fff;",
  "  border: 1px solid #dee0e3;",
  "  border-radius: 10px;",
  "  overflow: hidden;",
  "  font-family: -apple-system, BlinkMacSystemFont, Segoe UI, Roboto, Helvetica Neue, sans-serif;",
  "  width: 100%;",
  "\x7d",
  ".lark-card-header \x7b",
  "  -webkit-line-clamp: 2;",
  "  -webkit-box-orient: vertical;",
  "  display: -webkit-box;",
  "  background-color: var(--background-color);",
  "  padding: 12px;",
  "  color: var(--text-color);",
  "  font-size: 16px;",
  "  font-weight: 600;",
  "  line-height: 24px;",
  "  overflow: hidden;",
  "\x7d",
  ".lark-card-header.default \x7b --text-color: #1f2329; --background-color: #fff; \x7d",
  ".lark-card-header.blue \x7b --text-color: #245bdb; --background-color: #e1eaff; \x7d",
  ".lark-card-header.wathet \x7b --text-color: #0d6fa3; --background-color: #d9f3fd; \x7d",
  ".lark-card-header.turquoise \x7b --text-color: #078372; --background-color: #d5f6f2; \x7d",
  ".lark-card-header.green \x7b --text-color: #2e8c25; --background-color: #d9f5d6; \x7d",
  ".lark-card-header.yellow \x7b --text-color: #aa7803; --background-color: #faf1d1; \x7d",
  ".lark-card-header.red \x7b --text-color: #d83931; --background-color: #fde2e2; \x7d",
  ".lark-card-header.carmine \x7b --text-color: #c71e63; --background-color: #fdddef; \x7d",
  ".lark-card-header.violet \x7b --text-color: #a21ba8; --background-color: #f8def8; \x7d",
  ".lark-card-header.purple \x7b --text-color: #7d36e0; --background-color: #ece2fe; \x7d",
  ".lark-card-header.indigo \x7b --text-color: #4954e6; --background-color: #e0e9ff; \x7d",
  ".lark-card-header.grey \x7b --text-color: #373c43; --background-color: #eff0f1; \x7d",
  ".lark-card-elements \x7b",
  "  margin-top: 12px;",
  "  padding: 0 12px 12px;",
  "  position: relative;",
  "  user-select: none;",
  "\x7d",
  ".lark-card-element \x7b",
  "  margin-top: 12px;",
  "\x7d",
  ".lark-card-element.img \x7b",
  "  width: 100%;",
  "  height: auto;",
  "  position: relative;",
  "\x7d",
  ".lark-card-element.img.compact \x7b",
  "  max-width: 278px;",
  "\x7d",
  ".lark-card-element.note \x7b",
  "  display: flex;",
  "  flex-wrap: wrap;",
  "\x7d",
  ".lark-card-element.column_set \x7b",
  "  display: flex;",
  "  gap: 8px;",
  "\x7d",
  ".lark-card-column \x7b",
  "  flex: 1 1 0;",
  "  min-width: 0;",
  "\x7d",
  ".lark-card-element.note .lark-card-embedded.img \x7b",
  "  width: 16px;",
  "  height: 16px;",
  "  margin-right: 4px;",
  "\x7d",
  ".lark-card-element.note .lark-card-embedded.text \x7b",
  "  color: rgb(100, 106, 115);",
  "  font-size: 12px;",
  "\x7d"]

/-- The stylesheet, which starts on a new line and ends its last one. -/
def sheet : String :=
  "\n" ++ String.join (sheetLines.map (· ++ "\n"))

end MessageCard.Style
