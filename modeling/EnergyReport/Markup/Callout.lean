import EnergyReport.Markup.Inline
import EnergyReport.Text.Blank

namespace EnergyReport.Markup

/-! Callouts: highlighted boxes of four kinds. -/

inductive CalloutKind where
  | info
  | warning
  | tip
  | danger
  deriving Repr, DecidableEq

namespace CalloutKind

def all : List CalloutKind := [.info, .warning, .tip, .danger]

def name : CalloutKind → String
  | .info => "info"
  | .warning => "warning"
  | .tip => "tip"
  | .danger => "danger"

def ofName? (text : Text) : Option CalloutKind :=
  all.find? fun kind => kind.name.toList = text

def icon : CalloutKind → String
  | .info => "💡"
  | .warning => "⚠️"
  | .tip => "✅"
  | .danger => "🚨"

def title : CalloutKind → String
  | .info => "Info"
  | .warning => "Attention"
  | .tip => "Conseil"
  | .danger => "Important"

/-- Ink of the header and of the bar at the left. -/
def accent : CalloutKind → String
  | .info => "#3b82f6"
  | .warning => "#f59e0b"
  | .tip => "#10b981"
  | .danger => "#ef4444"

def background : CalloutKind → String
  | .info => "#eff6ff"
  | .warning => "#fffbeb"
  | .tip => "#f0fdf4"
  | .danger => "#fef2f2"

end CalloutKind

namespace Callout

/-- A line of the box: a paragraph, or a break for a blank line. -/
def linePieces (line : Text) : List Html.Piece :=
  let trimmed := Text.trim line
  if trimmed.isEmpty then [.void "br" []]
  else Html.element "p" [] (Inline.pieces .shown trimmed)

def header (kind : CalloutKind) : List Html.Piece :=
  Html.element "div" [("class", "callout-header"), ("style", "color: " ++ kind.accent)]
    (Html.element "span" [("class", "callout-icon")] [.verbatim kind.icon] ++
      Html.element "span" [("class", "callout-title")] [.verbatim kind.title])

/-- The box for the lines of a callout. -/
def pieces (kind : CalloutKind) (lines : List Text) : List Html.Piece :=
  Html.element "div"
    [("class", "callout callout-" ++ kind.name),
      ("style", s!"border-left: 4px solid {kind.accent}; background: {kind.background}")]
    (header kind ++
      Html.element "div" [("class", "callout-content")] (lines.flatMap linePieces))

end Callout

end EnergyReport.Markup
