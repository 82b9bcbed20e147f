import ImportDispatch.Zone
/-!
# The zone table

Data of the time zone database: what the clocks of each place showed and will show.  Single changes are given by the
second since the start of 1970 and the offset from then on, in seconds ahead of UTC.  Years with the same two changes
share one row: the month, which Sunday of it (zero for the last), the second counted from the midnight in UTC that
starts that Sunday, and the offset from then on.  The rules in force today are carried on through 2099.
-/
namespace ImportDispatch
namespace ZoneTable

def newYork : Zone := ⟨-17762, [
  .change (-2717650800) (-18000), .years 1918 1920 [⟨3, 0, 25200, -14400⟩, ⟨10, 0, 21600, -18000⟩],
  .years 1921 1941 [⟨4, 0, 25200, -14400⟩, ⟨9, 0, 21600, -18000⟩], .change (-880218000) (-14400),
  .change (-765396000) (-18000), .years 1946 1954 [⟨4, 0, 25200, -14400⟩, ⟨9, 0, 21600, -18000⟩],
  .years 1955 1973 [⟨4, 0, 25200, -14400⟩, ⟨10, 0, 21600, -18000⟩], .change 126687600 (-14400),
  .change 152085600 (-18000), .change 162370800 (-14400), .change 183535200 (-18000),
  .years 1976 1986 [⟨4, 0, 25200, -14400⟩, ⟨10, 0, 21600, -18000⟩],
  .years 1987 2006 [⟨4, 1, 25200, -14400⟩, ⟨10, 0, 21600, -18000⟩],
  .years 2007 2099 [⟨3, 2, 25200, -14400⟩, ⟨11, 1, 21600, -18000⟩]]⟩

def chicago : Zone := ⟨-21036, [
  .change (-2717647200) (-21600), .change (-1633276800) (-18000), .change (-1615136400) (-21600),
  .change (-1601827200) (-18000), .change (-1583686800) (-21600), .change (-1563724800) (-18000),
  .change (-1551632400) (-21600), .change (-1538928000) (-18000), .change (-1520182800) (-21600),
  .years 1922 1935 [⟨4, 0, 28800, -18000⟩, ⟨9, 0, 25200, -21600⟩], .change (-1067788800) (-18000),
  .change (-1045414800) (-21600), .years 1937 1941 [⟨4, 0, 28800, -18000⟩, ⟨9, 0, 25200, -21600⟩],
  .change (-880214400) (-18000), .change (-765392400) (-21600),
  .years 1946 1954 [⟨4, 0, 28800, -18000⟩, ⟨9, 0, 25200, -21600⟩],
  .years 1955 1973 [⟨4, 0, 28800, -18000⟩, ⟨10, 0, 25200, -21600⟩], .change 126691200 (-18000),
  .change 152089200 (-21600), .change 162374400 (-18000), .change 183538800 (-21600),
  .years 1976 1986 [⟨4, 0, 28800, -18000⟩, ⟨10, 0, 25200, -21600⟩],
  .years 1987 2006 [⟨4, 1, 28800, -18000⟩, ⟨10, 0, 25200, -21600⟩],
  .years 2007 2099 [⟨3, 2, 28800, -18000⟩, ⟨11, 1, 25200, -21600⟩]]⟩

def denver : Zone := ⟨-25196, [
  .change (-2717643600) (-25200), .years 1918 1920 [⟨3, 0, 32400, -21600⟩, ⟨10, 0, 28800, -25200⟩],
  .change (-1538924400) (-21600), .change (-1534089600) (-25200), .change (-880210800) (-21600),
  .change (-765388800) (-25200), .years 1965 1973 [⟨4, 0, 32400, -21600⟩, ⟨10, 0, 28800, -25200⟩],
  .change 126694800 (-21600), .change 152092800 (-25200), .change 162378000 (-21600), .change 183542400 (-25200),
  .years 1976 1986 [⟨4, 0, 32400, -21600⟩, ⟨10, 0, 28800, -25200⟩],
  .years 1987 2006 [⟨4, 1, 32400, -21600⟩, ⟨10, 0, 28800, -25200⟩],
  .years 2007 2099 [⟨3, 2, 32400, -21600⟩, ⟨11, 1, 28800, -25200⟩]]⟩

def losAngeles : Zone := ⟨-28378, [
  .change (-2717640000) (-28800), .change (-1633269600) (-25200), .change (-1615129200) (-28800),
  .change (-1601820000) (-25200), .change (-1583679600) (-28800), .change (-880207200) (-25200),
  .change (-765385200) (-28800), .change (-687967140) (-25200), .change (-662655600) (-28800),
  .years 1950 1961 [⟨4, 0, 32400, -25200⟩, ⟨9, 0, 32400, -28800⟩],
  .years 1962 1966 [⟨4, 0, 32400, -25200⟩, ⟨10, 0, 32400, -28800⟩],
  .years 1967 1973 [⟨4, 0, 36000, -25200⟩, ⟨10, 0, 32400, -28800⟩], .change 126698400 (-25200),
  .change 152096400 (-28800), .change 162381600 (-25200), .change 183546000 (-28800),
  .years 1976 1986 [⟨4, 0, 36000, -25200⟩, ⟨10, 0, 32400, -28800⟩],
  .years 1987 2006 [⟨4, 1, 36000, -25200⟩, ⟨10, 0, 32400, -28800⟩],
  .years 2007 2099 [⟨3, 2, 36000, -25200⟩, ⟨11, 1, 32400, -28800⟩]]⟩

def anchorage : Zone := ⟨50424, [
  .change (-3225223727) (-35976), .change (-2188951224) (-36000), .change (-880200000) (-32400),
  .change (-765378000) (-36000), .years 1969 1973 [⟨4, 0, 43200, -32400⟩, ⟨10, 0, 39600, -36000⟩],
  .change 126705600 (-32400), .change 152103600 (-36000), .change 162388800 (-32400), .change 183553200 (-36000),
  .years 1976 1982 [⟨4, 0, 43200, -32400⟩, ⟨10, 0, 39600, -36000⟩], .change 420033600 (-32400),
  .years 1984 1986 [⟨4, 0, 39600, -28800⟩, ⟨10, 0, 36000, -32400⟩],
  .years 1987 2006 [⟨4, 1, 39600, -28800⟩, ⟨10, 0, 36000, -32400⟩],
  .years 2007 2099 [⟨3, 2, 39600, -28800⟩, ⟨11, 1, 36000, -32400⟩]]⟩

def adak : Zone := ⟨44002, [
  .change (-3225223727) (-42398), .change (-2188944802) (-39600), .change (-880196400) (-36000),
  .change (-765374400) (-39600), .years 1969 1973 [⟨4, 0, 46800, -36000⟩, ⟨10, 0, 43200, -39600⟩],
  .change 126709200 (-36000), .change 152107200 (-39600), .change 162392400 (-36000), .change 183556800 (-39600),
  .years 1976 1982 [⟨4, 0, 46800, -36000⟩, ⟨10, 0, 43200, -39600⟩], .change 420037200 (-36000),
  .years 1984 1986 [⟨4, 0, 43200, -32400⟩, ⟨10, 0, 39600, -36000⟩],
  .years 1987 2006 [⟨4, 1, 43200, -32400⟩, ⟨10, 0, 39600, -36000⟩],
  .years 2007 2099 [⟨3, 2, 43200, -32400⟩, ⟨11, 1, 39600, -36000⟩]]⟩

def phoenix : Zone := ⟨-26898, [
  .change (-2717643600) (-25200), .change (-1633273200) (-21600), .change (-1615132800) (-25200),
  .change (-1601823600) (-21600), .change (-1583683200) (-25200), .change (-880210800) (-21600),
  .change (-820519140) (-25200), .change (-812653140) (-21600), .change (-796845540) (-25200),
  .change (-84380400) (-21600), .change (-68659200) (-25200)]⟩

def indianapolis : Zone := ⟨-20678, [
  .change (-2717647200) (-21600), .change (-1633276800) (-18000), .change (-1615136400) (-21600),
  .change (-1601827200) (-18000), .change (-1583686800) (-21600), .change (-900259200) (-18000),
  .change (-891795600) (-21600), .change (-880214400) (-18000), .change (-765392400) (-21600),
  .years 1946 1954 [⟨4, 0, 28800, -18000⟩, ⟨9, 0, 25200, -21600⟩], .change (-463593600) (-18000),
  .change (-386787600) (-21600), .change (-368640000) (-18000), .change (-21488400) (-14400),
  .change (-5767200) (-18000), .change 9961200 (-14400), .change 25682400 (-18000), .change 1143961200 (-14400),
  .change 1162101600 (-18000), .years 2007 2099 [⟨3, 2, 25200, -14400⟩, ⟨11, 1, 21600, -18000⟩]]⟩

def knox : Zone := ⟨-20790, [
  .change (-2717647200) (-21600), .change (-1633276800) (-18000), .change (-1615136400) (-21600),
  .change (-1601827200) (-18000), .change (-1583686800) (-21600), .change (-880214400) (-18000),
  .change (-765392400) (-21600), .years 1947 1954 [⟨4, 0, 28800, -18000⟩, ⟨9, 0, 25200, -21600⟩],
  .change (-463593600) (-18000), .change (-447267600) (-21600), .change (-431539200) (-18000),
  .change (-415818000) (-21600), .change (-400089600) (-18000), .change (-386787600) (-21600),
  .change (-368640000) (-18000), .change (-355338000) (-21600),
  .years 1959 1961 [⟨4, 0, 28800, -18000⟩, ⟨10, 0, 25200, -21600⟩], .change (-242236800) (-18000),
  .change (-195066000) (-21600), .years 1967 1973 [⟨4, 0, 28800, -18000⟩, ⟨10, 0, 25200, -21600⟩],
  .change 126691200 (-18000), .change 152089200 (-21600), .change 162374400 (-18000), .change 183538800 (-21600),
  .years 1976 1986 [⟨4, 0, 28800, -18000⟩, ⟨10, 0, 25200, -21600⟩],
  .years 1987 1990 [⟨4, 1, 28800, -18000⟩, ⟨10, 0, 25200, -21600⟩], .change 671011200 (-18000),
  .change 1162105200 (-21600), .years 2007 2099 [⟨3, 2, 28800, -18000⟩, ⟨11, 1, 25200, -21600⟩]]⟩

def detroit : Zone := ⟨-19931, [
  .change (-2051202469) (-21600), .change (-1724083200) (-18000), .change (-880218000) (-14400),
  .change (-765396000) (-18000), .change (-684349200) (-14400), .change (-671047200) (-18000),
  .change (-80506740) (-14400), .change (-68666400) (-18000), .change (-52938000) (-14400),
  .change (-37216800) (-18000), .change 104914800 (-14400), .change 120636000 (-18000), .change 126687600 (-14400),
  .change 152085600 (-18000), .years 1975 1986 [⟨4, 0, 25200, -14400⟩, ⟨10, 0, 21600, -18000⟩],
  .years 1987 2006 [⟨4, 1, 25200, -14400⟩, ⟨10, 0, 21600, -18000⟩],
  .years 2007 2099 [⟨3, 2, 25200, -14400⟩, ⟨11, 1, 21600, -18000⟩]]⟩

def honolulu : Zone := ⟨-37886, [
  .change (-2334101314) (-37800), .change (-1157283000) (-34200), .change (-1155436200) (-37800),
  .change (-880198200) (-34200), .change (-765376200) (-37800), .change (-712150200) (-36000)]⟩

def pagoPago : Zone := ⟨45432, [
  .change (-2445424632) (-40968), .change (-1861879032) (-39600)]⟩

def saoPaulo : Zone := ⟨-11188, [
  .change (-1767214412) (-10800), .change (-1206957600) (-7200), .change (-1191362400) (-10800),
  .change (-1175374800) (-7200), .change (-1159826400) (-10800), .change (-633819600) (-7200),
  .change (-622069200) (-10800), .change (-602283600) (-7200), .change (-591832800) (-10800),
  .change (-570747600) (-7200), .change (-560210400) (-10800), .change (-539125200) (-7200),
  .change (-531352800) (-10800), .change (-195426000) (-7200), .change (-184197600) (-10800),
  .change (-155163600) (-7200), .change (-150069600) (-10800), .change (-128898000) (-7200),
  .change (-121125600) (-10800), .change (-99954000) (-7200), .change (-89589600) (-10800),
  .change (-68418000) (-7200), .change (-57967200) (-10800), .change 499748400 (-7200), .change 511236000 (-10800),
  .change 530593200 (-7200), .change 540266400 (-10800), .change 562129200 (-7200), .change 571197600 (-10800),
  .change 592974000 (-7200), .change 602042400 (-10800), .change 624423600 (-7200), .change 634701600 (-10800),
  .change 656478000 (-7200), .change 666756000 (-10800), .change 687927600 (-7200), .change 697600800 (-10800),
  .change 719982000 (-7200), .change 728445600 (-10800), .change 750826800 (-7200), .change 761709600 (-10800),
  .change 782276400 (-7200), .change 793159200 (-10800), .change 813726000 (-7200), .change 824004000 (-10800),
  .change 844570800 (-7200), .change 856058400 (-10800), .change 876106800 (-7200), .change 888717600 (-10800),
  .change 908074800 (-7200), .change 919562400 (-10800), .change 938919600 (-7200), .change 951616800 (-10800),
  .change 970974000 (-7200), .change 982461600 (-10800), .change 1003028400 (-7200), .change 1013911200 (-10800),
  .change 1036292400 (-7200), .change 1045360800 (-10800), .change 1066532400 (-7200), .change 1076810400 (-10800),
  .change 1099364400 (-7200), .change 1108864800 (-10800), .change 1129431600 (-7200), .change 1140314400 (-10800),
  .change 1162695600 (-7200), .change 1172368800 (-10800), .change 1192330800 (-7200),
  .years 2008 2011 [⟨2, 3, 7200, -10800⟩, ⟨10, 3, 10800, -7200⟩], .change 1330221600 (-10800),
  .change 1350788400 (-7200), .change 1361066400 (-10800), .change 1382238000 (-7200), .change 1392516000 (-10800),
  .change 1413687600 (-7200), .change 1424570400 (-10800), .change 1445137200 (-7200), .change 1456020000 (-10800),
  .change 1476586800 (-7200), .change 1487469600 (-10800), .change 1508036400 (-7200), .change 1518919200 (-10800),
  .change 1541300400 (-7200), .change 1550368800 (-10800)]⟩

def warsaw : Zone := ⟨5040, [
  .change (-1717032240) 3600, .change (-1693706400) 7200, .change (-1680483600) 3600, .change (-1663455600) 7200,
  .change (-1650150000) 3600, .change (-1632006000) 7200, .change (-1600473600) 10800, .change (-1587168000) 7200,
  .change (-1501725600) 3600, .change (-931734000) 7200, .change (-857257200) 3600, .change (-844556400) 7200,
  .change (-828226800) 3600, .change (-812502000) 7200, .change (-796608000) 3600, .change (-778726800) 7200,
  .change (-762660000) 3600, .change (-748486800) 7200, .change (-733273200) 3600, .change (-715215600) 7200,
  .change (-701910000) 3600, .change (-684975600) 7200, .change (-670460400) 3600, .change (-654130800) 7200,
  .change (-639010800) 3600, .change (-397094400) 7200, .change (-386812800) 3600, .change (-371088000) 7200,
  .change (-355363200) 3600, .change (-334195200) 7200, .change (-323308800) 3600, .change (-307584000) 7200,
  .change (-291859200) 3600, .change (-271296000) 7200, .change (-260409600) 3600,
  .years 1962 1964 [⟨5, 0, 0, 7200⟩, ⟨9, 0, 0, 3600⟩], .change 228873600 7200, .change 243993600 3600,
  .change 260323200 7200, .change 276048000 3600, .change 291772800 7200, .change 307497600 3600,
  .change 323827200 7200, .change 338947200 3600, .years 1981 1987 [⟨3, 0, 0, 7200⟩, ⟨9, 0, 0, 3600⟩],
  .years 1988 1995 [⟨3, 0, 3600, 7200⟩, ⟨9, 0, 3600, 3600⟩],
  .years 1996 2099 [⟨3, 0, 3600, 7200⟩, ⟨10, 0, 3600, 3600⟩]]⟩

def dublin : Zone := ⟨-1521, [
  .change (-1691962479) 2079, .change (-1680471279) 0, .change (-1664143200) 3600, .change (-1650146400) 0,
  .change (-1633903200) 3600, .change (-1617487200) 0, .change (-1601848800) 3600, .change (-1586037600) 0,
  .change (-1570399200) 3600, .change (-1552168800) 0, .change (-1538344800) 3600, .change (-1522533600) 0,
  .change (-1507500000) 3600, .change (-1490565600) 0, .change (-1473631200) 3600, .change (-1460930400) 0,
  .change (-1442786400) 3600, .change (-1428876000) 0, .change (-1410732000) 3600, .change (-1396216800) 0,
  .change (-1379282400) 3600, .change (-1364767200) 0, .change (-1348437600) 3600, .change (-1333317600) 0,
  .change (-1315778400) 3600, .change (-1301263200) 0, .change (-1284328800) 3600, .change (-1269813600) 0,
  .change (-1253484000) 3600, .change (-1238364000) 0, .change (-1221429600) 3600, .change (-1206914400) 0,
  .change (-1189980000) 3600, .change (-1175464800) 0, .change (-1159135200) 3600, .change (-1143410400) 0,
  .change (-1126476000) 3600, .change (-1111960800) 0, .change (-1095631200) 3600, .change (-1080511200) 0,
  .change (-1063576800) 3600, .change (-1049061600) 0, .change (-1032127200) 3600, .change (-1017612000) 0,
  .change (-1001282400) 3600, .change (-986162400) 0, .change (-969228000) 3600, .change (-950479200) 0,
  .change (-942012000) 3600, .change (-733356000) 0, .change (-719445600) 3600, .change (-699487200) 0,
  .change (-684972000) 3600, .change (-668037600) 0, .change (-654732000) 3600, .change (-636588000) 0,
  .change (-622072800) 3600, .change (-605743200) 0, .change (-590623200) 3600, .change (-574293600) 0,
  .change (-558568800) 3600, .change (-542239200) 0, .change (-527119200) 3600, .change (-512604000) 0,
  .change (-496274400) 3600, .change (-481154400) 0, .change (-464220000) 3600, .change (-449704800) 0,
  .change (-432165600) 3600, .change (-417650400) 0, .change (-401320800) 3600, .change (-386200800) 0,
  .change (-369266400) 3600, .change (-354751200) 0, .change (-337816800) 3600, .change (-323301600) 0,
  .change (-306972000) 3600, .change (-291852000) 0, .years 1961 1963 [⟨3, 0, 7200, 3600⟩, ⟨10, 0, 7200, 0⟩],
  .change (-182383200) 3600, .change (-163634400) 0, .change (-150933600) 3600, .change (-132184800) 0,
  .change (-119484000) 3600, .change (-100735200) 0, .change (-88034400) 3600, .change (-68680800) 0,
  .change (-59004000) 3600, .change 57722400 0, .years 1972 1975 [⟨3, 3, 7200, 3600⟩, ⟨10, 0, 7200, 0⟩],
  .change 196221600 3600, .change 214970400 0, .change 227671200 3600, .change 246420000 0,
  .years 1978 1980 [⟨3, 3, 7200, 3600⟩, ⟨10, 0, 7200, 0⟩], .years 1981 1988 [⟨3, 0, 3600, 3600⟩, ⟨10, 4, 3600, 0⟩],
  .years 1989 1992 [⟨3, 0, 3600, 3600⟩, ⟨10, 0, 3600, 0⟩], .years 1993 1998 [⟨3, 0, 3600, 3600⟩, ⟨10, 4, 3600, 0⟩],
  .years 1999 2099 [⟨3, 0, 3600, 3600⟩, ⟨10, 0, 3600, 0⟩]]⟩

def kathmandu : Zone := ⟨20476, [
  .change (-1577943676) 19800, .change 504901800 20700]⟩

def tokyo : Zone := ⟨33539, [
  .change (-2587712400) 32400, .change (-683802000) 36000, .change (-672310800) 32400, .change (-654771600) 36000,
  .change (-640861200) 32400, .change (-620298000) 36000, .change (-609411600) 32400, .change (-588848400) 36000,
  .change (-577962000) 32400]⟩

def lordHowe : Zone := ⟨38180, [
  .change (-2364114980) 36000, .change 352216800 37800, .change 372785400 41400,
  .years 1982 1984 [⟨3, 1, -34200, 37800⟩, ⟨10, 0, -30600, 41400⟩], .change 478621800 37800, .change 499188600 39600,
  .change 511282800 37800, .change 530033400 39600, .years 1987 1989 [⟨3, 3, -32400, 37800⟩, ⟨10, 0, -30600, 39600⟩],
  .years 1990 1995 [⟨3, 1, -32400, 37800⟩, ⟨10, 0, -30600, 39600⟩],
  .years 1996 1999 [⟨3, 0, -32400, 37800⟩, ⟨10, 0, -30600, 39600⟩], .change 953996400 37800, .change 967303800 39600,
  .years 2001 2005 [⟨3, 0, -32400, 37800⟩, ⟨10, 0, -30600, 39600⟩], .change 1143903600 37800,
  .change 1162049400 39600, .change 1174748400 37800, .change 1193499000 39600,
  .years 2008 2099 [⟨4, 1, -32400, 37800⟩, ⟨10, 1, -30600, 39600⟩]]⟩

def apia : Zone := ⟨45184, [
  .change (-2445424384) (-41216), .change (-1861878784) (-41400), .change (-631110600) (-39600),
  .change 1285498800 (-36000), .change 1301752800 (-39600), .change 1316872800 (-36000), .change 1325239200 50400,
  .years 2012 2020 [⟨4, 1, -36000, 46800⟩, ⟨9, 0, -36000, 50400⟩], .change 1617458400 46800]⟩

end ZoneTable
end ImportDispatch
