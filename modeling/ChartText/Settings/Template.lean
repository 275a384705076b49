/-! # The template of a settings file

What a new settings file says: every setting with its default, or commented out if it has none. -/

namespace ChartText.Settings

def templateLines : List String :=
  [ "# plainviz configuration file",
    "# Looked up as .plainviz.toml in the working directory, then as",
    "# config.toml in the platform configuration directory.",
    "",
    "[render]",
    "# Canvas size in pixels",
    "width = 500",
    "height = 300",
    "",
    "# Space between the canvas edge and the plot area",
    "padding = 60",
    "",
    "# Colour scheme: \"dark\" or \"light\". When unset, a document's",
    "# \"Theme:\" header line decides, falling back to dark.",
    "# theme = \"dark\"",
    "",
    "# Series palette, used in order and repeated when exhausted.",
    "# A document's \"Colors:\" header takes precedence.",
    "# colors = [\"#89b4fa\", \"#a6e3a1\", \"#f9e2af\", \"#fab387\"]",
    "",
    "# Override individual theme colours",
    "# background_color = \"#1e1e2e\"",
    "# text_color = \"#cdd6f4\"",
    "# grid_color = \"#313244\"",
    "",
    "[embed]",
    "# Class of the <div> wrapping each chart in `plainviz embed` output",
    "class_name = \"plainviz-chart\"",
    "",
    "# Fenced code block languages treated as charts",
    "languages = [\"plainviz\", \"pv\"]" ]

def template : String :=
  String.join (templateLines.map (· ++ "\n"))

end ChartText.Settings
