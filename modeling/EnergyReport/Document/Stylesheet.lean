namespace EnergyReport.Document

/-! The stylesheet of a report. -/

structure StyleRule where
  selector : String
  /-- Properties and their values. -/
  declarations : List (String × String)
  /-- Whether the rule stands on a single line. -/
  compact : Bool
  deriving Repr

namespace StyleRule

/-- A rule with a line for each declaration. -/
def block (selector : String) (declarations : List (String × String)) : StyleRule :=
  ⟨selector, declarations, false⟩

/-- A rule on a single line. -/
def line (selector : String) (declarations : List (String × String)) : StyleRule :=
  ⟨selector, declarations, true⟩

def declaration : String × String → String
  | (property, value) => property ++ ": " ++ value ++ ";"

def render (rule : StyleRule) : String :=
  if rule.compact then
    rule.selector ++ " \x7b " ++ " ".intercalate (rule.declarations.map declaration) ++ " \x7d\n"
  else
    rule.selector ++ " \x7b\n" ++
      String.join (rule.declarations.map fun entry => "  " ++ declaration entry ++ "\n") ++ "\x7d\n"

end StyleRule

namespace Stylesheet

def pageRules : List (List StyleRule) :=
  [[.block "@page" [("size", "A4"), ("margin", "0")]],
   [.line "*" [("margin", "0"), ("padding", "0"), ("box-sizing", "border-box")]],
   [.block "body"
      [("font-family", "-apple-system, BlinkMacSystemFont, 'Segoe UI', sans-serif"),
        ("color", "#1e293b"), ("line-height", "1.7"), ("font-size", "14px"),
        ("background", "#ffffff")]],
   [.block ".header"
      [("background",
          "linear-gradient(135deg, var(--secondary) 0%, var(--primary) 55%, var(--light) 100%)"),
        ("color", "white"), ("padding", "42px 48px 48px"), ("position", "relative"),
        ("overflow", "hidden")]],
   [.block ".header .deco-1,\n.header .deco-2,\n.header .deco-3"
      [("position", "absolute"), ("border-radius", "50%")]],
   [.line ".header .deco-1"
      [("top", "-55px"), ("right", "-35px"), ("width", "185px"), ("height", "185px"),
        ("background", "rgba(255,255,255,0.07)")],
    .line ".header .deco-2"
      [("bottom", "-65px"), ("right", "100px"), ("width", "150px"), ("height", "150px"),
        ("background", "rgba(255,255,255,0.05)")],
    .line ".header .deco-3"
      [("top", "20px"), ("left", "45%"), ("width", "90px"), ("height", "90px"),
        ("background", "rgba(255,255,255,0.04)")]],
   [.block ".header-content" [("position", "relative"), ("z-index", "1")]],
   [.block ".header-logo"
      [("position", "absolute"), ("top", "20px"), ("right", "28px"), ("max-height", "50px"),
        ("max-width", "120px"), ("object-fit", "contain"), ("z-index", "2")]],
   [.block ".header .badge"
      [("display", "inline-block"), ("background", "rgba(255,255,255,0.18)"),
        ("padding", "5px 14px"), ("border-radius", "20px"), ("font-size", "11px"),
        ("font-weight", "500"), ("letter-spacing", "0.8px"), ("text-transform", "uppercase"),
        ("margin-bottom", "14px")]],
   [.line ".header h1"
      [("font-size", "27px"), ("font-weight", "700"), ("letter-spacing", "-0.3px"),
        ("margin-bottom", "6px")],
    .line ".header p" [("font-size", "13px"), ("opacity", "0.78")]],
   [.line ".body" [("padding", "48px")]]]

def textRules : List (List StyleRule) :=
  [[.block "h2"
      [("font-size", "16px"), ("font-weight", "700"), ("color", "#1e293b"),
        ("margin-top", "34px"), ("margin-bottom", "16px"), ("padding", "11px 18px"),
        ("background", "linear-gradient(90deg, var(--very-light) 0%, var(--faint) 100%)"),
        ("border-left", "4px solid var(--primary)"), ("border-radius", "0 8px 8px 0"),
        ("page-break-after", "avoid")]],
   [.line "h2:first-child" [("margin-top", "0")]],
   [.block "h3"
      [("font-size", "14px"), ("font-weight", "600"), ("color", "var(--primary)"),
        ("margin-top", "20px"), ("margin-bottom", "8px"), ("display", "flex"),
        ("align-items", "center"), ("gap", "8px"), ("page-break-after", "avoid")]],
   [.block "h3::before"
      [("content", "''"), ("display", "inline-block"), ("width", "6px"), ("height", "6px"),
        ("background", "var(--primary)"), ("border-radius", "2px"), ("flex-shrink", "0")]],
   [.line "p"
      [("margin-bottom", "10px"), ("color", "#475569"), ("orphans", "3"), ("widows", "3")],
    .line "strong" [("color", "#1e293b"), ("font-weight", "600")]],
   [.line "ul, ol" [("page-break-inside", "avoid"), ("margin-bottom", "14px")],
    .line "ul" [("list-style", "none"), ("padding-left", "0")],
    .line "ul li"
      [("position", "relative"), ("padding-left", "20px"), ("margin-bottom", "8px"),
        ("color", "#475569")]],
   [.block "ul li::before"
      [("content", "''"), ("position", "absolute"), ("left", "0"), ("top", "9px"),
        ("width", "8px"), ("height", "8px"),
        ("background", "linear-gradient(135deg, var(--primary), var(--secondary))"),
        ("border-radius", "50%")]],
   [.line "ol" [("padding-left", "22px")],
    .line "ol li" [("margin-bottom", "8px"), ("color", "#475569")]]]

def tableRules : List (List StyleRule) :=
  [[.block "table"
      [("width", "100%"), ("border-collapse", "separate"), ("border-spacing", "0"),
        ("margin-top", "12px"), ("margin-bottom", "22px"), ("border-radius", "10px"),
        ("overflow", "hidden"), ("border", "1px solid #e2e8f0"), ("page-break-inside", "avoid")]],
   [.line "thead"
      [("background", "linear-gradient(135deg, var(--secondary), var(--primary))")],
    .line "th"
      [("text-align", "left"), ("padding", "12px 16px"), ("font-weight", "600"),
        ("color", "#ffffff"), ("font-size", "13px")],
    .line "td"
      [("padding", "12px 16px"), ("color", "#475569"), ("border-bottom", "1px solid #e2e8f0"),
        ("font-size", "13px"), ("line-height", "1.6")],
    .line "tbody tr:last-child td" [("border-bottom", "none")],
    .line "tbody tr:nth-child(even)" [("background", "#f8fafc")]],
   [.line ".chart-wrap, .chart-compare" [("margin", "16px 0"), ("page-break-inside", "avoid")]]]

def coverRules : List (List StyleRule) :=
  [[.block ".cover-page, .end-page"
      [("width", "100%"), ("height", "100vh"), ("display", "flex"), ("align-items", "center"),
        ("justify-content", "center")]],
   [.line ".cover-page" [("page-break-after", "always")],
    .line ".end-page" [("page-break-before", "always")],
    .line ".cover-page img, .end-page img"
      [("width", "100%"), ("height", "100%"), ("object-fit", "contain")]],
   [.block ".footer"
      [("margin-top", "36px"), ("padding", "20px 48px"),
        ("background", "linear-gradient(135deg, var(--secondary) 0%, var(--primary) 100%)"),
        ("text-align", "center")]],
   [.line ".footer p"
      [("color", "rgba(255,255,255,0.75)"), ("font-size", "11px"), ("margin-bottom", "2px")]]]

def contentsRules : List (List StyleRule) :=
  [[.block ".sommaire-page"
      [("width", "100%"), ("min-height", "100vh"), ("padding", "60px 60px 40px"),
        ("background", "linear-gradient(135deg, #f8fafc 0%, #ffffff 100%)"),
        ("page-break-after", "always"), ("display", "flex"), ("flex-direction", "column")]],
   [.block ".sommaire-title"
      [("font-size", "28px"), ("font-weight", "700"), ("color", "var(--primary)"),
        ("letter-spacing", "1.5px"), ("margin-bottom", "40px"), ("text-align", "center")]],
   [.line ".sommaire-items" [("max-width", "600px"), ("margin", "0 auto"), ("width", "100%")]],
   [.block ".sommaire-item"
      [("display", "flex"), ("align-items", "center"), ("padding", "12px 20px"),
        ("margin-bottom", "8px"), ("background", "white"), ("border-radius", "10px"),
        ("box-shadow", "0 1px 4px rgba(0,0,0,0.05)"), ("color", "inherit"),
        ("text-decoration", "none")]],
   [.block ".sommaire-number"
      [("display", "inline-flex"), ("align-items", "center"), ("justify-content", "center"),
        ("width", "40px"), ("height", "40px"),
        ("background", "linear-gradient(135deg, var(--secondary), var(--primary))"),
        ("color", "white"), ("font-size", "16px"), ("font-weight", "700"),
        ("border-radius", "8px"), ("margin-right", "16px"), ("flex-shrink", "0")]],
   [.line ".sommaire-text"
      [("font-size", "14px"), ("font-weight", "500"), ("color", "#1e293b"), ("flex", "1")]]]

def summaryRules : List (List StyleRule) :=
  [[.block ".summary-card"
      [("background", "linear-gradient(135deg, var(--very-light) 0%, #ffffff 100%)"),
        ("border", "2px solid var(--primary-translucent)"), ("border-radius", "16px"),
        ("padding", "24px"), ("margin-bottom", "30px"),
        ("box-shadow", "0 4px 16px rgba(0,0,0,0.08)"), ("page-break-inside", "avoid")]],
   [.line ".summary-title"
      [("font-size", "18px"), ("font-weight", "700"), ("color", "var(--primary)"),
        ("margin-bottom", "20px"), ("text-align", "center")],
    .line ".summary-grid"
      [("display", "grid"), ("grid-template-columns", "repeat(auto-fit, minmax(180px, 1fr))"),
        ("gap", "16px")],
    .line ".summary-item"
      [("background", "white"), ("padding", "16px"), ("border-radius", "12px"),
        ("text-align", "center"), ("box-shadow", "0 2px 8px rgba(0,0,0,0.06)")]],
   [.block ".summary-label"
      [("font-size", "12px"), ("color", "#64748b"), ("text-transform", "uppercase"),
        ("letter-spacing", "0.5px"), ("margin-bottom", "8px"), ("font-weight", "600")]],
   [.line ".summary-value"
      [("font-size", "20px"), ("font-weight", "700"), ("color", "#1e293b")],
    .line ".summary-value-large" [("font-size", "32px")]]]

def sectionRules : List (List StyleRule) :=
  [[.block ".section-separator"
      [("margin", "30px -48px 20px"), ("padding", "10px 48px"), ("display", "flex"),
        ("align-items", "center"), ("gap", "12px"), ("page-break-inside", "avoid"),
        ("page-break-after", "avoid")]],
   [.line ".section-number"
      [("font-size", "18px"), ("font-weight", "700"), ("color", "rgba(255,255,255,0.95)"),
        ("line-height", "1"), ("min-width", "32px")],
    .line ".section-title"
      [("font-size", "15px"), ("font-weight", "700"), ("color", "white"),
        ("text-transform", "uppercase"), ("letter-spacing", "0.8px"), ("flex", "1")]]]

def photoRules : List (List StyleRule) :=
  [[.line ".photos-section" [("margin-top", "30px"), ("page-break-inside", "avoid")],
    .line ".photo-grid"
      [("display", "grid"), ("grid-template-columns", "repeat(2, 1fr)"), ("gap", "20px"),
        ("margin-top", "20px")],
    .line ".photo-item"
      [("border-radius", "12px"), ("overflow", "hidden"),
        ("box-shadow", "0 4px 12px rgba(0,0,0,0.1)"), ("background", "#f8fafc")],
    .line ".photo-item img"
      [("width", "100%"), ("height", "250px"), ("object-fit", "cover"), ("display", "block")]],
   [.block ".photo-caption"
      [("padding", "12px 16px"), ("font-size", "13px"), ("color", "#475569"),
        ("text-align", "center"), ("font-style", "italic"), ("background", "#ffffff"),
        ("margin", "0"), ("line-height", "1.4")]]]

def calloutRules : List (List StyleRule) :=
  [[.line ".callout"
      [("margin", "20px 0"), ("padding", "16px 20px"), ("border-radius", "8px"),
        ("page-break-inside", "avoid")],
    .line ".callout-header"
      [("display", "flex"), ("align-items", "center"), ("gap", "8px"), ("font-weight", "700"),
        ("font-size", "14px"), ("margin-bottom", "10px")],
    .line ".callout-icon" [("font-size", "16px")],
    .line ".callout-title" [("text-transform", "uppercase"), ("letter-spacing", "0.5px")],
    .line ".callout-content"
      [("font-size", "14px"), ("line-height", "1.6"), ("color", "#1e293b")],
    .line ".callout-content p" [("margin", "6px 0")],
    .line ".callout-content p:first-child" [("margin-top", "0")],
    .line ".callout-content p:last-child" [("margin-bottom", "0")]]]

def badgeRules : List (List StyleRule) :=
  [[.block ".badge"
      [("display", "inline-block"), ("padding", "4px 10px"), ("border-radius", "6px"),
        ("font-size", "11px"), ("font-weight", "700"), ("letter-spacing", "0.3px"),
        ("text-transform", "uppercase"), ("white-space", "nowrap")]],
   [.line ".badge-urgent"
      [("background", "#fee2e2"), ("color", "#dc2626"), ("border", "1px solid #fca5a5")],
    .line ".badge-recommended"
      [("background", "#fef3c7"), ("color", "#d97706"), ("border", "1px solid #fcd34d")],
    .line ".badge-optional"
      [("background", "#dbeafe"), ("color", "#2563eb"), ("border", "1px solid #93c5fd")],
    .line "td .badge"
      [("vertical-align", "middle"), ("margin", "2px 4px 2px 0"), ("line-height", "normal")]]]

/-- All rules; a blank line stands between two groups. -/
def groups : List (List StyleRule) :=
  pageRules ++ textRules ++ tableRules ++ coverRules ++ contentsRules ++ summaryRules ++
    sectionRules ++ photoRules ++ calloutRules ++ badgeRules

def text : String :=
  "\n".intercalate (groups.map fun group => String.join (group.map StyleRule.render))

end Stylesheet

end EnergyReport.Document
