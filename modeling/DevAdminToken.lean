import DevAdminToken.Str
import DevAdminToken.Int
import DevAdminToken.Base64
import DevAdminToken.Json
import DevAdminToken.JsonDecode
import DevAdminToken.Config
import DevAdminToken.Token
import DevAdminToken.Main
import DevAdminToken.PyFloat
import DevAdminToken.Analytics
import DevAdminToken.Dashboard
import DevAdminToken.AnalyticsRun
import DevAdminToken.Query
import DevAdminToken.Path
import DevAdminToken.Build
import DevAdminToken.Quality
